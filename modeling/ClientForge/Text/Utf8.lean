/-
  UTF-8: the octets of a text, and the text of a row of octets.

  Reading is a machine that sees one octet at a time.  Between characters it is idle; inside one
  it knows how many octets are owed and which values the next may take, so overlong forms,
  surrogates and numbers beyond Unicode are refused at the first octet that rules them out.  The
  strict reading fails there; the lenient one writes the replacement character for the octets
  refused and goes on.
-/
namespace ClientForge.Text

/-- The octets of a text. -/
def utf8 (cs : List Char) : List UInt8 := cs.flatMap String.utf8EncodeChar

/-- A character that has begun: the octets still owed, the bounds of the next one, and the number
read so far. -/
structure Unfinished where
  owed : Nat
  low : Nat
  high : Nat
  value : Nat
deriving DecidableEq, Repr

/-- What an octet between characters begins; `none` in the output marks a refused octet. -/
def beginOctet (b : Nat) : List (Option Char) × Option Unfinished :=
  if b < 0x80 then ([some (Char.ofNat b)], none)
  else if 0xC2 ≤ b && b ≤ 0xDF then ([], some ⟨1, 0x80, 0xBF, b - 0xC0⟩)
  else if b == 0xE0 then ([], some ⟨2, 0xA0, 0xBF, 0⟩)
  else if b == 0xED then ([], some ⟨2, 0x80, 0x9F, 13⟩)
  else if 0xE1 ≤ b && b ≤ 0xEF then ([], some ⟨2, 0x80, 0xBF, b - 0xE0⟩)
  else if b == 0xF0 then ([], some ⟨3, 0x90, 0xBF, 0⟩)
  else if 0xF1 ≤ b && b ≤ 0xF3 then ([], some ⟨3, 0x80, 0xBF, b - 0xF0⟩)
  else if b == 0xF4 then ([], some ⟨3, 0x80, 0x8F, 4⟩)
  else ([none], none)

/-- One step of the machine. -/
def stepOctet (state : Option Unfinished) (b : Nat) : List (Option Char) × Option Unfinished :=
  match state with
  | none => beginOctet b
  | some p =>
    if p.low ≤ b && b ≤ p.high then
      let value := p.value * 64 + (b - 0x80)
      if p.owed ≤ 1 then ([some (Char.ofNat value)], none)
      else ([], some ⟨p.owed - 1, 0x80, 0xBF, value⟩)
    else
      let (out, next) := beginOctet b
      (none :: out, next)

/-- The characters of the octets, `none` standing for each refused run. -/
def readOctets (state : Option Unfinished) : List UInt8 → List (Option Char)
  | [] => if state.isSome then [none] else []
  | b :: bs =>
    let (out, next) := stepOctet state b.toNat
    out ++ readOctets next bs

/-- The text of the octets, or nothing where they are not UTF-8. -/
def ofUtf8? (bytes : List UInt8) : Option (List Char) :=
  (readOctets none bytes).mapM id

/-- The text of the octets with the replacement character where they are not UTF-8. -/
def ofUtf8Lossy (bytes : List UInt8) : List Char :=
  (readOctets none bytes).map fun c => c.getD (Char.ofNat 0xFFFD)

example : ofUtf8Lossy [0xFF, 0x78] = [Char.ofNat 0xFFFD, 'x'] := by decide
example : ofUtf8? [0xC3, 0xA9] = some ['é'] := by decide

end ClientForge.Text
