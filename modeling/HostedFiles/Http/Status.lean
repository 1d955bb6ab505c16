/-!
# Http/Status — status codes and their phrases

A code has three digits.  The phrase of an assigned code is the registered one; every other code is
called an error.
-/

namespace HostedFiles.Http

/-- A status code. -/
structure Status where
  code : Nat
  three_digits : 100 ≤ code ∧ code ≤ 999 := by decide
  deriving DecidableEq

namespace Status

/-- The status of a code, when it has three digits. -/
def ofCode? (code : Nat) : Option Status :=
  if h : 100 ≤ code ∧ code ≤ 999 then some ⟨code, h⟩ else none

/-- What is said of a code that has not three digits. -/
def invalidCode : String := "invalid status code"

/-- The registered phrases. -/
def phrases : List (Nat × String) :=
  [(100, "Continue"), (101, "Switching Protocols"), (102, "Processing"), (103, "Early Hints"),
   (200, "OK"), (201, "Created"), (202, "Accepted"), (203, "Non Authoritative Information"),
   (204, "No Content"), (205, "Reset Content"), (206, "Partial Content"), (207, "Multi-Status"),
   (208, "Already Reported"), (226, "IM Used"),
   (300, "Multiple Choices"), (301, "Moved Permanently"), (302, "Found"), (303, "See Other"),
   (304, "Not Modified"), (305, "Use Proxy"), (307, "Temporary Redirect"),
   (308, "Permanent Redirect"),
   (400, "Bad Request"), (401, "Unauthorized"), (402, "Payment Required"), (403, "Forbidden"),
   (404, "Not Found"), (405, "Method Not Allowed"), (406, "Not Acceptable"),
   (407, "Proxy Authentication Required"), (408, "Request Timeout"), (409, "Conflict"),
   (410, "Gone"), (411, "Length Required"), (412, "Precondition Failed"),
   (413, "Payload Too Large"), (414, "URI Too Long"), (415, "Unsupported Media Type"),
   (416, "Range Not Satisfiable"), (417, "Expectation Failed"), (418, "I'm a teapot"),
   (421, "Misdirected Request"), (422, "Unprocessable Entity"), (423, "Locked"),
   (424, "Failed Dependency"), (425, "Too Early"), (426, "Upgrade Required"),
   (428, "Precondition Required"), (429, "Too Many Requests"),
   (431, "Request Header Fields Too Large"), (451, "Unavailable For Legal Reasons"),
   (500, "Internal Server Error"), (501, "Not Implemented"), (502, "Bad Gateway"),
   (503, "Service Unavailable"), (504, "Gateway Timeout"), (505, "HTTP Version Not Supported"),
   (506, "Variant Also Negotiates"), (507, "Insufficient Storage"), (508, "Loop Detected"),
   (510, "Not Extended"), (511, "Network Authentication Required")]

/-- The phrase of a status. -/
def phrase (status : Status) : String :=
  (phrases.lookup status.code).getD "Error"

/-! ## The statuses of answers -/

/-- The request did what it asked for. -/
def ok : Status := ⟨200, by decide⟩

/-- Something new can be found under an address. -/
def created : Status := ⟨201, by decide⟩

/-- The request makes no sense. -/
def badRequest : Status := ⟨400, by decide⟩

/-- The request lacks a credential. -/
def unauthorized : Status := ⟨401, by decide⟩

/-- There is nothing under the address. -/
def notFound : Status := ⟨404, by decide⟩

/-- The address does not take the method. -/
def methodNotAllowed : Status := ⟨405, by decide⟩

/-- The body is too long. -/
def payloadTooLarge : Status := ⟨413, by decide⟩

/-- The body is of a type that is not taken. -/
def unsupportedMediaType : Status := ⟨415, by decide⟩

/-- The service failed. -/
def internalError : Status := ⟨500, by decide⟩

end Status

end HostedFiles.Http
