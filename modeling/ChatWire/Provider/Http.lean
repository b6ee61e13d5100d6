import ChatWire.Provider.Url

namespace ChatWire.Provider

/-- An HTTP request. -/
structure HttpRequest where
  method : String := "POST"
  url : String
  headers : List (String × String) := []
  body : String := ""
deriving Inhabited

/-- An HTTP response. -/
structure HttpResponse where
  status : Nat
  contentType : String := "text/event-stream"
  body : List UInt8 := []
deriving Inhabited

/-- Why a request failed before a response arrived: the client's error text. -/
abbrev TransportError := String

/-- Something that answers HTTP requests. -/
abbrev Transport := HttpRequest → Except TransportError HttpResponse

/-- Whether a byte may stand in a header value: a visible character, a blank, a tab, or
    any byte from `0x80` up. -/
def headerByteAllowed (b : UInt8) : Bool :=
  (b ≥ 32 && b != 127) || b == 9

/-- Whether a text may be sent as a header value. -/
def validHeaderValue (v : String) : Bool :=
  (Text.utf8 v).all headerByteAllowed

/-- The text of bytes that are UTF-8. -/
def utf8Text? (bytes : List UInt8) : Option String :=
  String.fromUTF8? (ByteArray.mk bytes.toArray)

/-- The URL with its credentials taken out, as they move into an `Authorization`
    header. The user name must read as UTF-8 once its escapes are decoded, and
    something must move: a user name or a password that reads as UTF-8. -/
def Url.withoutCredentials (u : Url) : Url :=
  match utf8Text? (Url.percentDecode (Text.utf8 u.username)) with
  | none => u
  | some user =>
    let passwordMoves := !u.password.isEmpty &&
      (utf8Text? (Url.percentDecode (Text.utf8 u.password))).isSome
    if u.host.isSome && (!user.isEmpty || passwordMoves) then
      { u with username := "", password := "" }
    else u

/-- Whether a byte may stand in an authority: letters, digits and
    `! # $ & ' ( ) * + , - . / : ; = ? @ [ ] _ ~`. -/
def authorityByte (b : UInt8) : Bool :=
  b == 0x21 || b == 0x23 || b == 0x24 || (0x26 ≤ b && b ≤ 0x3B) || b == 0x3D ||
    (0x3F ≤ b && b ≤ 0x5B) || b == 0x5D || b == 0x5F || (0x61 ≤ b && b ≤ 0x7A) || b == 0x7E

/-- What a scan of an authority has seen: colons since the credentials or the
    brackets, the brackets, an escape outside the credentials, and the last `@`. -/
structure AuthorityScan where
  colons : Nat := 0
  opened : Bool := false
  closed : Bool := false
  percent : Bool := false
  lastAt : Option Nat := none

/-- Takes the byte at place `i` of an authority; `none` when it cannot stand there. -/
def AuthorityScan.step (st : AuthorityScan) (bi : UInt8 × Nat) : Option AuthorityScan :=
  let (b, i) := bi
  if b == 0x3A then (if st.colons ≥ 8 then none else some { st with colons := st.colons + 1 })
  else if b == 0x5B then (if st.percent || st.opened then none else some { st with opened := true })
  else if b == 0x5D then
    (if !st.opened || st.closed then none
     else some { st with closed := true, colons := 0, percent := false })
  else if b == 0x40 then some { st with lastAt := some i, colons := 0, percent := false }
  else if b == 0x25 then some { st with percent := true }
  else if authorityByte b then some st
  else none

/-- The authority at the front of the bytes after `scheme://`, up to the first `/`,
    `?` or `#`, if it is a valid one: not empty, brackets closed, at most one colon
    outside credentials and brackets, something after an `@`, and escapes only in
    the credentials. -/
def authorityLength? (bytes : List UInt8) : Option Nat := do
  let part := bytes.takeWhile fun b => b != 0x2F && b != 0x3F && b != 0x23
  let st ← part.zipIdx.foldlM AuthorityScan.step {}
  if part.isEmpty || st.opened != st.closed || st.colons > 1 ||
      st.lastAt == some (part.length - 1) || st.percent then none
  return part.length

/-- Whether a byte may stand in a path sent in a request. -/
def pathByte (b : UInt8) : Bool :=
  b == 0x21 || (0x24 ≤ b && b ≤ 0x3B) || b == 0x3D || (0x40 ≤ b && b ≤ 0x5F) ||
    (0x61 ≤ b && b ≤ 0x7A) || b == 0x7C || b == 0x7E || b ≥ 0x7F || b == 0x22 ||
    b == 0x7B || b == 0x7D

/-- Whether a byte may stand in a query sent in a request. -/
def queryByte (b : UInt8) : Bool :=
  b == 0x21 || (0x24 ≤ b && b ≤ 0x3B) || b == 0x3D || (0x3F ≤ b && b ≤ 0x7E) || b ≥ 0x7F

/-- Whether the bytes after the authority form a path and query; a fragment is not
    sent. -/
def pathAndQueryValid (bytes : List UInt8) : Bool :=
  let sent := bytes.takeWhile (· != 0x23)
  let path := sent.takeWhile (· != 0x3F)
  path.all pathByte && (sent.drop (path.length + 1)).all queryByte

/-- The longest URL a request may go to, in bytes. -/
def maxTargetLength : Nat := 65534

/-- Whether an `http` or `https` URL can be the target of a request. -/
def Url.isRequestTarget (u : Url) : Bool :=
  let bytes := Text.utf8 u.text
  let rest := bytes.drop (u.scheme.length + 3)
  bytes.length ≤ maxTargetLength &&
    match authorityLength? rest with
    | some n => pathAndQueryValid (rest.drop n)
    | none => false

/-- Builds a request and passes it to the transport with the URL in its normal form,
    without credentials. -/
def send (transport : Transport) (request : HttpRequest) : Except TransportError HttpResponse :=
  match Url.parse request.url with
  | none => .error "builder error"
  | some u =>
    let u := u.withoutCredentials
    if !request.headers.all fun (_, v) => validHeaderValue v then .error "builder error"
    else if (u.scheme == "http" || u.scheme == "https") && u.isRequestTarget then
      transport { request with url := u.text }
    else .error ("builder error for url (" ++ u.text ++ ")")

/-- The transport of a host without a network. -/
def offline : Transport := fun request =>
  .error ("error sending request for url (" ++ request.url ++ ")")

/-- The reason phrase of a status code, when it has a standard one. -/
def reasonPhrase : Nat → Option String
  | 100 => some "Continue" | 101 => some "Switching Protocols" | 102 => some "Processing"
  | 103 => some "Early Hints"
  | 200 => some "OK" | 201 => some "Created" | 202 => some "Accepted"
  | 203 => some "Non Authoritative Information" | 204 => some "No Content"
  | 205 => some "Reset Content" | 206 => some "Partial Content" | 207 => some "Multi-Status"
  | 208 => some "Already Reported" | 226 => some "IM Used"
  | 300 => some "Multiple Choices" | 301 => some "Moved Permanently" | 302 => some "Found"
  | 303 => some "See Other" | 304 => some "Not Modified" | 305 => some "Use Proxy"
  | 307 => some "Temporary Redirect" | 308 => some "Permanent Redirect"
  | 400 => some "Bad Request" | 401 => some "Unauthorized" | 402 => some "Payment Required"
  | 403 => some "Forbidden" | 404 => some "Not Found" | 405 => some "Method Not Allowed"
  | 406 => some "Not Acceptable" | 407 => some "Proxy Authentication Required"
  | 408 => some "Request Timeout" | 409 => some "Conflict" | 410 => some "Gone"
  | 411 => some "Length Required" | 412 => some "Precondition Failed"
  | 413 => some "Payload Too Large" | 414 => some "URI Too Long"
  | 415 => some "Unsupported Media Type" | 416 => some "Range Not Satisfiable"
  | 417 => some "Expectation Failed" | 418 => some "I'm a teapot"
  | 421 => some "Misdirected Request" | 422 => some "Unprocessable Entity" | 423 => some "Locked"
  | 424 => some "Failed Dependency" | 425 => some "Too Early" | 426 => some "Upgrade Required"
  | 428 => some "Precondition Required" | 429 => some "Too Many Requests"
  | 431 => some "Request Header Fields Too Large" | 451 => some "Unavailable For Legal Reasons"
  | 500 => some "Internal Server Error" | 501 => some "Not Implemented" | 502 => some "Bad Gateway"
  | 503 => some "Service Unavailable" | 504 => some "Gateway Timeout"
  | 505 => some "HTTP Version Not Supported" | 506 => some "Variant Also Negotiates"
  | 507 => some "Insufficient Storage" | 508 => some "Loop Detected" | 510 => some "Not Extended"
  | 511 => some "Network Authentication Required"
  | _ => none

/-- A status as text: the code and its reason phrase. -/
def statusText (code : Nat) : String :=
  toString code ++ " " ++ (reasonPhrase code).getD "<unknown status code>"

end ChatWire.Provider
