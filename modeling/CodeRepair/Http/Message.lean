import CodeRepair.Text.LowerCase
import CodeRepair.Text.Utf8

/-!
Requests and answers as they go over the wire.
-/
namespace CodeRepair.Http

/-- A header: names are compared without regard to case. -/
structure Header where
  name : String
  value : String
  deriving DecidableEq, Repr, Inhabited

/-- A request. `target` is the path with the query. -/
structure Request where
  method : String
  target : String
  headers : List Header
  body : String
  deriving DecidableEq, Repr, Inhabited

structure Response where
  status : Nat
  headers : List Header
  body : String
  deriving DecidableEq, Repr, Inhabited

def header? (headers : List Header) (name : String) : Option String :=
  (headers.find? fun h ↦ Text.lowerCase h.name = name).map (·.value)

/-- A text that can be the value of a header: one without controls other than tabs. -/
def isHeaderValue (s : String) : Bool :=
  (Text.Utf8.encode s.toList).all fun b ↦ (32 ≤ b.toNat && b.toNat ≠ 127) || b.toNat = 9

def isSuccess (status : Nat) : Bool := 200 ≤ status && status < 300

/-- Statuses whose answers have no body. -/
def isBodiless (status : Nat) : Bool := status < 200 || status = 204 || status = 304

def statusNames : List (Nat × String) := [
  (100, "Continue"), (101, "Switching Protocols"), (102, "Processing"), (103, "Early Hints"),
  (200, "OK"), (201, "Created"), (202, "Accepted"), (203, "Non Authoritative Information"), (204, "No Content"),
  (205, "Reset Content"), (206, "Partial Content"), (207, "Multi-Status"), (208, "Already Reported"),
  (226, "IM Used"),
  (300, "Multiple Choices"), (301, "Moved Permanently"), (302, "Found"), (303, "See Other"), (304, "Not Modified"),
  (305, "Use Proxy"), (307, "Temporary Redirect"), (308, "Permanent Redirect"),
  (400, "Bad Request"), (401, "Unauthorized"), (402, "Payment Required"), (403, "Forbidden"), (404, "Not Found"),
  (405, "Method Not Allowed"), (406, "Not Acceptable"), (407, "Proxy Authentication Required"),
  (408, "Request Timeout"), (409, "Conflict"), (410, "Gone"), (411, "Length Required"),
  (412, "Precondition Failed"), (413, "Payload Too Large"), (414, "URI Too Long"),
  (415, "Unsupported Media Type"), (416, "Range Not Satisfiable"), (417, "Expectation Failed"),
  (418, "I'm a teapot"), (421, "Misdirected Request"), (422, "Unprocessable Entity"), (423, "Locked"),
  (424, "Failed Dependency"), (425, "Too Early"), (426, "Upgrade Required"), (428, "Precondition Required"),
  (429, "Too Many Requests"), (431, "Request Header Fields Too Large"), (451, "Unavailable For Legal Reasons"),
  (500, "Internal Server Error"), (501, "Not Implemented"), (502, "Bad Gateway"), (503, "Service Unavailable"),
  (504, "Gateway Timeout"), (505, "HTTP Version Not Supported"), (506, "Variant Also Negotiates"),
  (507, "Insufficient Storage"), (508, "Loop Detected"), (510, "Not Extended"),
  (511, "Network Authentication Required")]

def statusText (status : Nat) : String :=
  let name :=
    match statusNames.find? (·.1 = status) with
    | some (_, name) => name
    | none => "<unknown status code>"
  toString status ++ " " ++ name

end CodeRepair.Http
