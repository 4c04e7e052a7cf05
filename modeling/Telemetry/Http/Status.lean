/-!
Status codes of HTTP responses.

A status code has three digits. A log shows it with its registered phrase.
-/
namespace Telemetry.Http

/-- A status code. -/
structure Status where
  code : UInt16
  three_digits : 100 ≤ code.toNat ∧ code.toNat ≤ 999
  deriving DecidableEq, Repr

namespace Status

def ofNat? (code : Nat) : Option Status :=
  if h : 100 ≤ code ∧ code ≤ 999 then
    some ⟨UInt16.ofNat code, by
      have : (UInt16.ofNat code).toNat = code := by
        simp [UInt16.toNat_ofNat']
        omega
      omega⟩
  else none

def goOn : Status := ⟨100, by decide⟩

def ok : Status := ⟨200, by decide⟩

def badRequest : Status := ⟨400, by decide⟩

def unauthorized : Status := ⟨401, by decide⟩

def notFound : Status := ⟨404, by decide⟩

def tooManyRequests : Status := ⟨429, by decide⟩

def internalServerError : Status := ⟨500, by decide⟩

def serviceUnavailable : Status := ⟨503, by decide⟩

instance : Inhabited Status := ⟨ok⟩

/-- Whether the status only announces the response proper. A switch of protocols is final. -/
def isInterim (s : Status) : Bool :=
  s.code < 200 && s.code != 101

def isSuccess (s : Status) : Bool :=
  200 ≤ s.code && s.code < 300

/-- Whether a response with this status may have a body. -/
def allowsBody (s : Status) : Bool :=
  200 ≤ s.code && s.code != 204 && s.code != 304

def phrases : List (Nat × String) :=
  [(100, "Continue"), (101, "Switching Protocols"), (102, "Processing"), (103, "Early Hints"),
   (200, "OK"), (201, "Created"), (202, "Accepted"), (203, "Non Authoritative Information"),
   (204, "No Content"), (205, "Reset Content"), (206, "Partial Content"), (207, "Multi-Status"),
   (208, "Already Reported"), (226, "IM Used"),
   (300, "Multiple Choices"), (301, "Moved Permanently"), (302, "Found"), (303, "See Other"),
   (304, "Not Modified"), (305, "Use Proxy"), (307, "Temporary Redirect"),
   (308, "Permanent Redirect"),
   (400, "Bad Request"), (401, "Unauthorized"), (402, "Payment Required"), (403, "Forbidden"),
   (404, "Not Found"), (405, "Method Not Allowed"), (406, "Not Acceptable"),
   (407, "Proxy Authentication Required"), (408, "Request Timeout"), (409, "Conflict"),
   (410, "Gone"), (411, "Length Required"), (412, "Precondition Failed"),
   (413, "Payload Too Large"), (414, "URI Too Long"), (415, "Unsupported Media Type"),
   (416, "Range Not Satisfiable"), (417, "Expectation Failed"), (418, "I'm a teapot"),
   (421, "Misdirected Request"), (422, "Unprocessable Entity"), (423, "Locked"),
   (424, "Failed Dependency"), (425, "Too Early"), (426, "Upgrade Required"),
   (428, "Precondition Required"), (429, "Too Many Requests"),
   (431, "Request Header Fields Too Large"), (451, "Unavailable For Legal Reasons"),
   (500, "Internal Server Error"), (501, "Not Implemented"), (502, "Bad Gateway"),
   (503, "Service Unavailable"), (504, "Gateway Timeout"), (505, "HTTP Version Not Supported"),
   (506, "Variant Also Negotiates"), (507, "Insufficient Storage"), (508, "Loop Detected"),
   (510, "Not Extended"), (511, "Network Authentication Required")]

def phrase (s : Status) : String :=
  (phrases.lookup s.code.toNat).getD "<unknown status code>"

/-- A status as a log shows it. -/
def describe (s : Status) : String :=
  s!"{s.code.toNat} " ++ s.phrase

end Status

end Telemetry.Http
