import RuleHints.Json.Source
import RuleHints.Remote.Request
import RuleHints.Url.Read

/-!
# Asking over HTTP

A hint request becomes an address below a base, with the request's parameters in the query. An
answer counts if its status says success and its body is a document.
-/

namespace RuleHints.Http

/-- The base of requests: an address that ends in a slash. -/
structure Base where
  url : Url
  deriving DecidableEq, Repr

namespace Base

def ofText (t : Text) : Except Failure Base :=
  match Url.read none (Text.dropTrailing '/' t ++ ['/']) with
  | .ok url => .ok ⟨url⟩
  | .error problem =>
    .error (.configuration ("Invalid hint base URL " ++ t ++ ": " ++ problem.message))

def requestUrl (base : Base) (request : HintRequest) : Except Failure Url :=
  match Url.read (some base.url) (request.endpoint.dropWhile (· == '/')) with
  | .ok url => .ok (request.parameters.foldl Url.addParameter url)
  | .error problem =>
    .error (.transport
      ("Invalid hint endpoint " ++ request.endpoint ++ ": " ++ problem.message))

end Base

def requestLine (url : Url) : Text := "GET " ++ url.requestTarget ++ " HTTP/1.1"

def reasons : List (Nat × String) := [
  (100, "Continue"), (101, "Switching Protocols"), (102, "Processing"), (103, "Early Hints"),
  (200, "OK"), (201, "Created"), (202, "Accepted"), (203, "Non Authoritative Information"),
  (204, "No Content"), (205, "Reset Content"), (206, "Partial Content"), (207, "Multi-Status"),
  (208, "Already Reported"), (226, "IM Used"), (300, "Multiple Choices"),
  (301, "Moved Permanently"), (302, "Found"), (303, "See Other"), (304, "Not Modified"),
  (305, "Use Proxy"), (307, "Temporary Redirect"), (308, "Permanent Redirect"),
  (400, "Bad Request"), (401, "Unauthorized"), (402, "Payment Required"), (403, "Forbidden"),
  (404, "Not Found"), (405, "Method Not Allowed"), (406, "Not Acceptable"),
  (407, "Proxy Authentication Required"), (408, "Request Timeout"), (409, "Conflict"),
  (410, "Gone"), (411, "Length Required"), (412, "Precondition Failed"),
  (413, "Payload Too Large"), (414, "URI Too Long"), (415, "Unsupported Media Type"),
  (416, "Range Not Satisfiable"), (417, "Expectation Failed"), (418, "I'm a teapot"),
  (421, "Misdirected Request"), (422, "Unprocessable Entity"), (423, "Locked"),
  (424, "Failed Dependency"), (425, "Too Early"), (426, "Upgrade Required"),
  (428, "Precondition Required"), (429, "Too Many Requests"),
  (431, "Request Header Fields Too Large"), (451, "Unavailable For Legal Reasons"),
  (500, "Internal Server Error"), (501, "Not Implemented"), (502, "Bad Gateway"),
  (503, "Service Unavailable"), (504, "Gateway Timeout"), (505, "HTTP Version Not Supported"),
  (506, "Variant Also Negotiates"), (507, "Insufficient Storage"), (508, "Loop Detected"),
  (510, "Not Extended"), (511, "Network Authentication Required")]

def statusText (status : Nat) : Text :=
  let reason := ((reasons.find? (·.1 = status)).map (·.2)).getD "<unknown status code>"
  Text.ofNat status ++ [' '] ++ reason

structure Response where
  status : Nat
  body : Text

/-- The body of an answer; a status can say that there is none. -/
def Response.content (response : Response) : Text :=
  if response.status = 204 then [] else response.body

def Response.document (response : Response) : Except Failure Json :=
  if 200 ≤ response.status ∧ response.status < 300 then
    match Json.read? response.content with
    | some document => .ok document
    | none => .error (.invalidResponse "the body is no document")
  else .error (.transport ("Hint endpoint returned " ++ statusText response.status))

end RuleHints.Http
