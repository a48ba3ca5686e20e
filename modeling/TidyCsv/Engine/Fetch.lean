import TidyCsv.Bytes
import TidyCsv.Engine.Url

/-!
# Fetching remote sources

A network answers a request in one of a few ways, redirects having been followed. Only a successful
answer that arrives whole gives content.
-/

namespace TidyCsv

/-- How the body of an answer arrives. -/
inductive Body where
  | whole (content : Bytes)
  /-- The connection fails on the way; the network says how. -/
  | broken (reason : String)
  /-- The rest does not come in time. -/
  | stalled
deriving DecidableEq, Repr

/-- How a network reacts to a request. -/
inductive Exchange where
  | answered (status : Nat) (body : Body)
  /-- No answer comes; the network says why. -/
  | failed (reason : String)
  /-- No answer comes in time. -/
  | timedOut
deriving DecidableEq, Repr

/-- The reaction to a request for each URL. -/
abbrev Network := String → Exchange

/-- The network in which nothing answers. What it says names the URL. -/
def Network.unreachable : Network := fun url =>
  .failed ("error sending request for url (" ++ Url.written url ++ ")")

/-- The standard phrases of status codes. -/
def statusPhrases : List (Nat × String) := [
  (100, "Continue"), (101, "Switching Protocols"), (102, "Processing"), (103, "Early Hints"),
  (200, "OK"), (201, "Created"), (202, "Accepted"), (203, "Non Authoritative Information"),
  (204, "No Content"), (205, "Reset Content"), (206, "Partial Content"), (207, "Multi-Status"),
  (208, "Already Reported"), (226, "IM Used"),
  (300, "Multiple Choices"), (301, "Moved Permanently"), (302, "Found"), (303, "See Other"),
  (304, "Not Modified"), (305, "Use Proxy"), (307, "Temporary Redirect"),
  (308, "Permanent Redirect"),
  (400, "Bad Request"), (401, "Unauthorized"), (402, "Payment Required"), (403, "Forbidden"),
  (404, "Not Found"), (405, "Method Not Allowed"), (406, "Not Acceptable"),
  (407, "Proxy Authentication Required"), (408, "Request Timeout"), (409, "Conflict"),
  (410, "Gone"), (411, "Length Required"), (412, "Precondition Failed"),
  (413, "Payload Too Large"), (414, "URI Too Long"), (415, "Unsupported Media Type"),
  (416, "Range Not Satisfiable"), (417, "Expectation Failed"), (418, "I'm a teapot"),
  (421, "Misdirected Request"), (422, "Unprocessable Entity"), (423, "Locked"),
  (424, "Failed Dependency"), (425, "Too Early"), (426, "Upgrade Required"),
  (428, "Precondition Required"), (429, "Too Many Requests"),
  (431, "Request Header Fields Too Large"), (451, "Unavailable For Legal Reasons"),
  (500, "Internal Server Error"), (501, "Not Implemented"), (502, "Bad Gateway"),
  (503, "Service Unavailable"), (504, "Gateway Timeout"), (505, "HTTP Version Not Supported"),
  (506, "Variant Also Negotiates"), (507, "Insufficient Storage"), (508, "Loop Detected"),
  (510, "Not Extended"), (511, "Network Authentication Required")]

def statusPhrase (code : Nat) : String := (statusPhrases.lookup code).getD "Unknown"

inductive FetchFault where
  | status (code : Nat) (url : String)
  | noAnswer (url : String)
  | noBody (url : String)
  | network (reason : String)
deriving DecidableEq, Repr

def FetchFault.message : FetchFault → String
  | status code url =>
    "HTTP Error " ++ toString code ++ " " ++ statusPhrase code ++ ": " ++ url
  | noAnswer url => "HTTP timeout: request to " ++ url ++ " timed out"
  | noBody url => "HTTP timeout: reading " ++ url ++ " timed out"
  | network reason => "HTTP Error: " ++ reason

def Network.fetch (network : Network) (url : String) : Except FetchFault Bytes :=
  match network url with
  | .failed reason => .error (.network reason)
  | .timedOut => .error (.noAnswer url)
  | .answered code body =>
    if code < 200 ∨ 300 ≤ code then .error (.status code url)
    else
      match body with
      | .whole content => .ok content
      | .broken reason => .error (.network reason)
      | .stalled => .error (.noBody url)

end TidyCsv
