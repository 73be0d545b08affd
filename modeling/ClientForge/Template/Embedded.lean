/-
  The static files of a generated crate: its manifest, a page about it, the root of the library,
  its errors, and the sending of requests.
-/
namespace ClientForge.Template

/-- The lines of a file, each with its end. -/
def ofLines (lines : List String) : String := String.join (lines.map (· ++ "\n"))

/-- The manifest of the package. -/
def manifest : String := ofLines [
  "[package]",
  "name = \"\x7b\x7b package_name \x7d\x7d\"",
  "version = \"0.1.0\"",
  "edition = \"2021\"",
  "description = \"Typed client for \x7b\x7b api_title \x7d\x7d \x7b\x7b api_version \x7d\x7d\"",
  "publish = false",
  "",
  "[dependencies]",
  "chrono = \x7b version = \"0.4\", features = [\"serde\"] \x7d",
  "serde = \x7b version = \"1\", features = [\"derive\"] \x7d",
  "serde_json = \"1\"",
  "thiserror = \"2\""]

/-- What the package says about itself. -/
def readme : String := ofLines [
  "# \x7b\x7b package_name \x7d\x7d",
  "",
  "Typed Rust client for **\x7b\x7b api_title \x7d\x7d** (API version \x7b\x7b api_version \x7d\x7d).",
  "",
  "Generated by `openapi-sdkgen`. Do not edit `src/models.rs`, `src/client.rs`,",
  "`src/mock.rs` or `src/sdk_test.rs` by hand; regenerate them instead.",
  "",
  "## Usage",
  "",
  "The client does not ship an HTTP stack. Implement `HttpTransport` for the",
  "HTTP library of your choice and hand it to `Client::new`:",
  "",
  "```rust,ignore",
  "use \x7b\x7b package_name | replace(from=\"-\", to=\"_\") \x7d\x7d::\x7bApiClient, Client, HttpTransport, Request, Response\x7d;",
  "",
  "struct MyTransport;",
  "",
  "impl HttpTransport for MyTransport \x7b",
  "    fn send(&self, request: &Request) -> Result<Response, \x7b\x7b package_name | replace(from=\"-\", to=\"_\") \x7d\x7d::Error> \x7b",
  "        // Perform `request.method` against `request.url`, sending",
  "        // `request.api_key` and `request.body`.",
  "        todo!()",
  "    \x7d",
  "\x7d",
  "",
  "let client = Client::new(\"my-api-key\", MyTransport);",
  "```",
  "",
  "Requests go to `\x7b\x7b base_url \x7d\x7d` unless overridden with `Client::with_base_url`.",
  "",
  "## Tests",
  "",
  "`cargo test` runs one happy-path and one unhappy-path test per endpoint",
  "against `MockTransport`, which serves the example payloads from the API",
  "document."]

/-- The errors of client methods. -/
def errorModule : String := ofLines [
  "//! Errors returned by client methods.",
  "",
  "use thiserror::Error;",
  "",
  "#[derive(Debug, Error)]",
  "pub enum Error \x7b",
  "    /// The transport could not complete the request.",
  "    #[error(\"transport failed: \x7b0\x7d\")]",
  "    Transport(String),",
  "",
  "    /// The server answered with a non-success status.",
  "    #[error(\"request failed with status \x7bstatus\x7d: \x7bbody\x7d\")]",
  "    Status \x7b status: u16, body: String \x7d,",
  "",
  "    /// A payload could not be encoded or decoded.",
  "    #[error(\"invalid JSON payload: \x7b0\x7d\")]",
  "    Json(#[from] serde_json::Error),",
  "\x7d"]

/-- The root of the library. -/
def libraryRoot : String := ofLines [
  "//! Typed client for \x7b\x7b api_title \x7d\x7d \x7b\x7b api_version \x7d\x7d.",
  "",
  "pub mod client;",
  "pub mod error;",
  "pub mod models;",
  "pub mod transport;",
  "",
  "#[cfg(test)]",
  "mod mock;",
  "#[cfg(test)]",
  "mod sdk_test;",
  "",
  "/// Server URL declared by the API document.",
  "pub const BASE_URL: &str = \"\x7b\x7b base_url_literal \x7d\x7d\";",
  "",
  "pub use client::ApiClient;",
  "pub use error::Error;",
  "pub use transport::\x7bClient, HttpTransport, MockTransport, Request, Response\x7d;"]

/-- The sending of requests, and the stand-in for the server. -/
def transportModule : String := ofLines [
  "//! Request plumbing shared by every client method.",
  "",
  "use serde::de::DeserializeOwned;",
  "use serde::Serialize;",
  "",
  "use crate::error::Error;",
  "",
  "/// Credential accepted by `MockTransport`.",
  "pub const VALID_API_KEY: &str = \"foo\";",
  "",
  "/// Credential rejected by `MockTransport`.",
  "pub const INVALID_API_KEY: &str = \"invalidApiKey\";",
  "",
  "/// One outgoing request.",
  "#[derive(Debug, Clone, PartialEq, Eq)]",
  "pub struct Request \x7b",
  "    pub method: String,",
  "    /// Base URL joined with `path`.",
  "    pub url: String,",
  "    /// Route with parameters substituted, including the query string.",
  "    pub path: String,",
  "    pub api_key: String,",
  "    /// JSON body, if the operation sends one.",
  "    pub body: Option<String>,",
  "\x7d",
  "",
  "/// Raw response handed back by a transport.",
  "#[derive(Debug, Clone, PartialEq, Eq)]",
  "pub struct Response \x7b",
  "    pub status: u16,",
  "    pub body: String,",
  "\x7d",
  "",
  "/// Performs HTTP requests for a `Client`.",
  "pub trait HttpTransport \x7b",
  "    fn send(&self, request: &Request) -> Result<Response, Error>;",
  "\x7d",
  "",
  "/// API client bound to a credential and a transport.",
  "pub struct Client \x7b",
  "    api_key: String,",
  "    base_url: String,",
  "    transport: Box<dyn HttpTransport>,",
  "\x7d",
  "",
  "impl std::fmt::Debug for Client \x7b",
  "    fn fmt(&self, f: &mut std::fmt::Formatter<'_>) -> std::fmt::Result \x7b",
  "        f.debug_struct(\"Client\")",
  "            .field(\"base_url\", &self.base_url)",
  "            .finish_non_exhaustive()",
  "    \x7d",
  "\x7d",
  "",
  "impl Client \x7b",
  "    pub fn new(api_key: impl Into<String>, transport: impl HttpTransport + 'static) -> Self \x7b",
  "        Self \x7b",
  "            api_key: api_key.into(),",
  "            base_url: crate::BASE_URL.to_string(),",
  "            transport: Box::new(transport),",
  "        \x7d",
  "    \x7d",
  "",
  "    pub fn with_base_url(mut self, base_url: impl Into<String>) -> Self \x7b",
  "        self.base_url = base_url.into().trim_end_matches('/').to_string();",
  "        self",
  "    \x7d",
  "",
  "    /// Send one request and decode the JSON response.",
  "    ///",
  "    /// Any non-2xx status is an `Error::Status`. An empty or `null` body",
  "    /// decodes to `T::default()`.",
  "    pub fn request_handler<B, T>(&self, method: &str, path: &str, body: Option<&B>) -> Result<T, Error>",
  "    where",
  "        B: Serialize + ?Sized,",
  "        T: DeserializeOwned + Default,",
  "    \x7b",
  "        let body = body.map(serde_json::to_string).transpose()?;",
  "        let request = Request \x7b",
  "            method: method.to_string(),",
  "            url: format!(\"\x7b\x7d\x7b\x7d\", self.base_url, path),",
  "            path: path.to_string(),",
  "            api_key: self.api_key.clone(),",
  "            body,",
  "        \x7d;",
  "",
  "        let response = self.transport.send(&request)?;",
  "        if !(200..300).contains(&response.status) \x7b",
  "            return Err(Error::Status \x7b",
  "                status: response.status,",
  "                body: response.body,",
  "            \x7d);",
  "        \x7d",
  "        decode(&response.body)",
  "    \x7d",
  "\x7d",
  "",
  "fn decode<T: DeserializeOwned + Default>(body: &str) -> Result<T, Error> \x7b",
  "    let body = body.trim();",
  "    if body.is_empty() || body == \"null\" \x7b",
  "        return Ok(T::default());",
  "    \x7d",
  "    Ok(serde_json::from_str(body)?)",
  "\x7d",
  "",
  "/// Append `key=value` pairs to `path` as a percent-encoded query string.",
  "pub fn append_query(path: &mut String, query: &[(&str, String)]) \x7b",
  "    for (index, (key, value)) in query.iter().enumerate() \x7b",
  "        path.push(if index == 0 \x7b '?' \x7d else \x7b '&' \x7d);",
  "        path.push_str(&percent_encode(key));",
  "        path.push('=');",
  "        path.push_str(&percent_encode(value));",
  "    \x7d",
  "\x7d",
  "",
  "fn percent_encode(text: &str) -> String \x7b",
  "    let mut encoded = String::with_capacity(text.len());",
  "    for byte in text.bytes() \x7b",
  "        match byte \x7b",
  "            b'A'..=b'Z' | b'a'..=b'z' | b'0'..=b'9' | b'-' | b'.' | b'_' | b'~' => \x7b",
  "                encoded.push(char::from(byte));",
  "            \x7d",
  "            _ => encoded.push_str(&format!(\"%\x7bbyte:02X\x7d\")),",
  "        \x7d",
  "    \x7d",
  "    encoded",
  "\x7d",
  "",
  "/// A canned response for one route template and method.",
  "#[derive(Debug, Clone, Copy, PartialEq, Eq)]",
  "pub struct Fixture \x7b",
  "    pub route: &'static str,",
  "    pub method: &'static str,",
  "    pub status: u16,",
  "    pub body: &'static str,",
  "\x7d",
  "",
  "/// Transport that answers from a fixture table without any network access.",
  "///",
  "/// Requests carrying anything but `VALID_API_KEY` get a 401; unknown",
  "/// routes get a 404.",
  "#[derive(Debug, Clone, Copy)]",
  "pub struct MockTransport \x7b",
  "    fixtures: &'static [Fixture],",
  "\x7d",
  "",
  "impl MockTransport \x7b",
  "    pub fn new(fixtures: &'static [Fixture]) -> Self \x7b",
  "        Self \x7b fixtures \x7d",
  "    \x7d",
  "",
  "    /// The decoded fixture payload for `route` and `method`.",
  "    ///",
  "    /// # Panics",
  "    ///",
  "    /// When the fixture body does not decode into `T`.",
  "    pub fn expected<T: DeserializeOwned + Default>(&self, route: &str, method: &str) -> T \x7b",
  "        let body = self",
  "            .fixtures",
  "            .iter()",
  "            .find(|fixture| fixture.route == route && fixture.method == method)",
  "            .map_or(\"null\", |fixture| fixture.body);",
  "        match decode(body) \x7b",
  "            Ok(value) => value,",
  "            Err(err) => panic!(\"fixture for \x7bmethod\x7d \x7broute\x7d does not decode: \x7berr\x7d\"),",
  "        \x7d",
  "    \x7d",
  "",
  "    fn lookup(&self, method: &str, path: &str) -> Option<&'static Fixture> \x7b",
  "        let path = path.split('?').next().unwrap_or_default();",
  "        self.fixtures",
  "            .iter()",
  "            .filter(|fixture| fixture.method == method)",
  "            .filter_map(|fixture| route_score(fixture.route, path).map(|score| (score, fixture)))",
  "            .max_by_key(|(score, _)| *score)",
  "            .map(|(_, fixture)| fixture)",
  "    \x7d",
  "\x7d",
  "",
  "/// Number of literal segments shared by `route` and `path`, or `None` when",
  "/// the template does not match.",
  "fn route_score(route: &str, path: &str) -> Option<usize> \x7b",
  "    let template: Vec<&str> = route.split('/').collect();",
  "    let actual: Vec<&str> = path.split('/').collect();",
  "    if template.len() != actual.len() \x7b",
  "        return None;",
  "    \x7d",
  "    let mut literals = 0;",
  "    for (expected, segment) in template.iter().zip(&actual) \x7b",
  "        if expected.contains('\x7b') \x7b",
  "            continue;",
  "        \x7d",
  "        if expected != segment \x7b",
  "            return None;",
  "        \x7d",
  "        literals += 1;",
  "    \x7d",
  "    Some(literals)",
  "\x7d",
  "",
  "impl HttpTransport for MockTransport \x7b",
  "    fn send(&self, request: &Request) -> Result<Response, Error> \x7b",
  "        if request.api_key != VALID_API_KEY \x7b",
  "            return Ok(Response \x7b",
  "                status: 401,",
  "                body: r#\"\x7b\"message\":\"invalid api key\"\x7d\"#.to_string(),",
  "            \x7d);",
  "        \x7d",
  "        Ok(match self.lookup(&request.method, &request.path) \x7b",
  "            Some(fixture) => Response \x7b",
  "                status: fixture.status,",
  "                body: fixture.body.to_string(),",
  "            \x7d,",
  "            None => Response \x7b",
  "                status: 404,",
  "                body: format!(r#\"\x7b\x7b\"message\":\"no fixture for \x7b\x7d \x7b\x7d\"\x7d\x7d\"#, request.method, request.path),",
  "            \x7d,",
  "        \x7d)",
  "    \x7d",
  "\x7d",
  "",
  "#[cfg(test)]",
  "mod tests \x7b",
  "    use super::*;",
  "",
  "    const FIXTURES: &[Fixture] = &[",
  "        Fixture \x7b route: \"/projects/\x7bid\x7d\", method: \"GET\", status: 200, body: r#\"\x7b\"id\":\"p1\"\x7d\"# \x7d,",
  "        Fixture \x7b route: \"/projects/search\", method: \"GET\", status: 200, body: r#\"[]\"# \x7d,",
  "    ];",
  "",
  "    #[test]",
  "    fn query_is_percent_encoded() \x7b",
  "        let mut path = String::from(\"/items\");",
  "        append_query(&mut path, &[(\"q\", \"a b\".to_string()), (\"ids\", \"1,2\".to_string())]);",
  "        assert_eq!(path, \"/items?q=a%20b&ids=1%2C2\");",
  "    \x7d",
  "",
  "    #[test]",
  "    fn literal_routes_win_over_templates() \x7b",
  "        let mock = MockTransport::new(FIXTURES);",
  "        assert_eq!(mock.lookup(\"GET\", \"/projects/search?limit=1\").map(|f| f.body), Some(\"[]\"));",
  "        assert_eq!(mock.lookup(\"GET\", \"/projects/p9\").map(|f| f.route), Some(\"/projects/\x7bid\x7d\"));",
  "        assert!(mock.lookup(\"POST\", \"/projects/p9\").is_none());",
  "    \x7d",
  "",
  "    #[test]",
  "    fn invalid_credentials_fail() \x7b",
  "        let client = Client::new(INVALID_API_KEY, MockTransport::new(FIXTURES));",
  "        let result: Result<serde_json::Value, Error> = client.request_handler(\"GET\", \"/projects/p1\", None::<&()>);",
  "        assert!(matches!(result, Err(Error::Status \x7b status: 401, .. \x7d)));",
  "    \x7d",
  "\x7d"]

/-- The static files by name. -/
def embedded : List (String × String) := [
  ("Cargo.toml.jinja2", manifest),
  ("README.md.jinja2", readme),
  ("src/error.rs", errorModule),
  ("src/lib.rs.jinja2", libraryRoot),
  ("src/transport.rs", transportModule)]

end ClientForge.Template
