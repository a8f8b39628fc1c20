import EntroTunnel.Core.Text

/-!
# The request head of the local proxy

`parse_http_head` of `client-core/src/proxy.rs` collects reads of at most 2048 bytes until they
contain the empty line that ends a request head, and takes the stream's destination from the request
line or the `Host` field. `headStep` is one read; `parseHttpHead` runs the reads of a connection.
The bytes to forward are all bytes collected so far, head and beginning of the body alike, and none
for `CONNECT`.
-/

set_option autoImplicit false
set_option relaxedAutoImplicit false

namespace EntroTunnel.Client

open EntroTunnel.Core

/-- Why a request head is refused. `noTarget` carries the request line. -/
inductive HeadError
  | eof
  | tooLarge
  | noTarget (first : String)
  deriving DecidableEq, Repr

/-- The position of the first occurrence. -/
def findSub (needle : Bytes) : Bytes → Option ℕ
  | [] => none
  | byte :: rest =>
    if needle.isPrefixOf (byte :: rest) then some 0
    else (findSub needle rest).map (· + 1)

/-- Host and port of `host:port`; without a number after the last colon, all of it is the host. -/
def splitHostPort (text : List Char) (default : UInt16) : String × UInt16 :=
  match rsplitOnce ':' text with
  | some (host, port) =>
    match parseU16 port with
    | some number => (String.ofList host, number)
    | none => (String.ofList text, default)
  | none => (String.ofList text, default)

/-- The value of a `Host` field on a line, in one of two spellings. -/
def hostField (line : List Char) : Option (List Char) :=
  let text := trim line
  ((stripPrefix "Host:".toList text).or (stripPrefix "host:".toList text)).map trim

/-- `parse_request_line`: the destination, and whether the method is `CONNECT`. -/
def parseRequestLine (head : Bytes) : Except HeadError (TargetAddr × Bool) :=
  let text := fromUtf8Lossy head
  let first := (lines text).headD []
  let words := splitWhitespace first
  let method := words.headD []
  let uri := words.tail.headD []
  if eqIgnoreAsciiCase method "CONNECT".toList then
    let (host, port) := splitHostPort uri 443
    .ok (.domain host port, true)
  else
    let hostPort := match stripPrefix "http://".toList uri with
      | some rest => rest.takeWhile (· ≠ '/')
      | none => ((lines text).findSome? hostField).getD []
    if hostPort = [] then .error (.noTarget (String.ofList first))
    else
      let (host, port) := splitHostPort hostPort 80
      .ok (.domain host port, false)

/-- The end of a request head. -/
def headEnd : Bytes := [13, 10, 13, 10]

/-- What one read leads to. -/
inductive HeadStep
  | more (buf : Bytes)
  | done (target : TargetAddr) (isConnect : Bool) (forward : Bytes)
  | failed (error : HeadError)
  deriving DecidableEq, Repr

/-- One read of `parse_http_head`; an empty read is the end of the stream. -/
def headStep (buf chunk : Bytes) : HeadStep :=
  if chunk = [] then .failed .eof
  else
    let buf := buf ++ chunk
    match findSub headEnd buf with
    | some pos =>
      match parseRequestLine (buf.take (pos + 4)) with
      | .ok (target, isConnect) => .done target isConnect (if isConnect then [] else buf)
      | .error error => .failed error
    | none => if 64 * 1024 < buf.length then .failed .tooLarge else .more buf

/-- A request head is forwarded with all that was read, and one of `CONNECT` not at all. -/
theorem forward_eq_of_headStep {buf chunk forward : Bytes} {target : TargetAddr} {isConnect : Bool}
    (hhead : headStep buf chunk = .done target isConnect forward) :
    forward = if isConnect then [] else buf ++ chunk := by
  unfold headStep at hhead
  split_ifs at hhead
  dsimp only at hhead
  split at hhead
  · split at hhead
    · obtain ⟨-, rfl, rfl⟩ := HeadStep.done.inj hhead
      rfl
    · cases hhead
  · split_ifs at hhead

/-- What has been read before the end of a head is kept. -/
theorem more_of_headStep {buf chunk more : Bytes} (hhead : headStep buf chunk = .more more) :
    more = buf ++ chunk := by
  unfold headStep at hhead
  split_ifs at hhead
  dsimp only at hhead
  split at hhead
  · split at hhead <;> cases hhead
  · split_ifs at hhead
    exact (HeadStep.more.inj hhead).symm

/-- `parse_http_head` on the reads of a connection, from the bytes collected so far; `more` when it
still waits for a read. -/
def parseHttpHead (buf : Bytes) : List Bytes → HeadStep
  | [] => .more buf
  | chunk :: rest =>
    match headStep buf chunk with
    | .more buf => parseHttpHead buf rest
    | outcome => outcome

/-- The request head of a plain request names its host before the path. -/
example : parseHttpHead [] ["GET http://a.test:81/x HTTP/1.1\r\n\r\n".toUTF8.data.toList] =
    .done (.domain "a.test" 81) false
      "GET http://a.test:81/x HTTP/1.1\r\n\r\n".toUTF8.data.toList := by
  decide +kernel

end EntroTunnel.Client
