import CoverageNote.Url.Parser

/-!
# Messages

A request names what it wants by a method and a URL; a response has a status, headers and a body of
bytes, which may break off before its end.
-/

namespace CoverageNote.Http

/-! ## Requests -/

/-- A method, by its name in capital letters. -/
structure Method where
  name : Text
deriving Repr, DecidableEq

namespace Method

/-- The method that reads. -/
def get : Method := ⟨"GET".toList⟩

/-- The method that makes something new. -/
def post : Method := ⟨"POST".toList⟩

/-- The method that changes a part. -/
def patch : Method := ⟨"PATCH".toList⟩

end Method

/-- A header : its name in small letters and its value. -/
abbrev Header := Text × Text

/-- A request. -/
structure Request where
  method : Method
  url : Url
  headers : List Header
  body : Option Text
deriving Repr, DecidableEq

/-! ## Responses -/

/-- A response. The body is not complete if the connection broke off within it. -/
structure Response where
  status : Nat
  headers : List Header
  body : List UInt8
  complete : Bool
deriving Repr, DecidableEq

/-- The value of the first header with this name. -/
def Response.header? (r : Response) (name : Text) : Option Text :=
  (r.headers.find? fun h => h.1.map Char.toLower = name).map (·.2)

/-- A status that says that the request was carried out. -/
def isSuccess (status : Nat) : Bool :=
  200 ≤ status && status < 300

/-- The reasons of the statuses. -/
def reasons : List (Nat × Text) :=
  [(100, "Continue".toList), (101, "Switching Protocols".toList), (102, "Processing".toList),
    (103, "Early Hints".toList), (200, "OK".toList), (201, "Created".toList),
    (202, "Accepted".toList), (203, "Non Authoritative Information".toList),
    (204, "No Content".toList), (205, "Reset Content".toList), (206, "Partial Content".toList),
    (207, "Multi-Status".toList), (208, "Already Reported".toList), (226, "IM Used".toList),
    (300, "Multiple Choices".toList), (301, "Moved Permanently".toList), (302, "Found".toList),
    (303, "See Other".toList), (304, "Not Modified".toList), (305, "Use Proxy".toList),
    (307, "Temporary Redirect".toList), (308, "Permanent Redirect".toList),
    (400, "Bad Request".toList), (401, "Unauthorized".toList), (402, "Payment Required".toList),
    (403, "Forbidden".toList), (404, "Not Found".toList), (405, "Method Not Allowed".toList),
    (406, "Not Acceptable".toList), (407, "Proxy Authentication Required".toList),
    (408, "Request Timeout".toList), (409, "Conflict".toList), (410, "Gone".toList),
    (411, "Length Required".toList), (412, "Precondition Failed".toList),
    (413, "Payload Too Large".toList), (414, "URI Too Long".toList),
    (415, "Unsupported Media Type".toList), (416, "Range Not Satisfiable".toList),
    (417, "Expectation Failed".toList), (418, "I'm a teapot".toList),
    (421, "Misdirected Request".toList), (422, "Unprocessable Entity".toList),
    (423, "Locked".toList), (424, "Failed Dependency".toList), (425, "Too Early".toList),
    (426, "Upgrade Required".toList), (428, "Precondition Required".toList),
    (429, "Too Many Requests".toList), (431, "Request Header Fields Too Large".toList),
    (451, "Unavailable For Legal Reasons".toList), (500, "Internal Server Error".toList),
    (501, "Not Implemented".toList), (502, "Bad Gateway".toList),
    (503, "Service Unavailable".toList), (504, "Gateway Timeout".toList),
    (505, "HTTP Version Not Supported".toList), (506, "Variant Also Negotiates".toList),
    (507, "Insufficient Storage".toList), (508, "Loop Detected".toList),
    (510, "Not Extended".toList), (511, "Network Authentication Required".toList)]

/-- A status with its reason. -/
def statusText (status : Nat) : Text :=
  Text.decimal status ++ [' '] ++
    ((reasons.find? fun r => r.1 = status).map (·.2)).getD "<unknown status code>".toList

end CoverageNote.Http
