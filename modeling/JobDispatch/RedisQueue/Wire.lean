import JobDispatch.RedisQueue.Basic

/-!
# Commands and replies as bytes

A command is an array of its words, each with its length in bytes. The first byte of a reply tells
its kind; texts of any bytes and arrays come after their length, where a negative length stands for
nothing.
-/

namespace JobDispatch.RedisQueue

/-- A line with its end. -/
def lineBytes (text : String) : List UInt8 := Text.toUtf8 text.toList ++ [13, 10]

/-- A command as bytes. -/
def commandBytes (words : List String) : List UInt8 :=
  lineBytes ("*" ++ toString words.length) ++
    words.flatMap fun word => lineBytes ("$" ++ toString word.utf8ByteSize) ++ lineBytes word

/-- How far bytes have been read. -/
inductive Progress
  /-- A reply, and the bytes after it. -/
  | complete (reply : Reply) (rest : List UInt8)
  /-- The reply has not arrived as a whole. -/
  | partly
  /-- The bytes are no reply. -/
  | malformed

/-- The line at the start of bytes, if its end has arrived, and the bytes after it. -/
def takeLine? : List UInt8 → Option (String × List UInt8)
  | bytes =>
    let line := bytes.takeWhile (· ≠ 13)
    match bytes.drop line.length with
    | 13 :: 10 :: rest => some (String.ofList (Text.ofUtf8Lossy line), rest)
    | _ => none

/-- Reads replies one after another until an array is full. -/
def collect (read : List UInt8 → Progress) : Nat → List UInt8 → List Reply → Progress
  | 0, bytes, items => .complete (.array items.reverse) bytes
  | count + 1, bytes, items =>
    match read bytes with
    | .complete reply rest => collect read count rest (reply :: items)
    | other => other

/-- The code of an error and its detail. -/
def splitError (text : String) : String × String :=
  let code := text.toList.takeWhile (· ≠ ' ')
  (String.ofList code, String.ofList (text.toList.drop (code.length + 1)))

/-- Reads a reply. The fuel bounds the depth of arrays. -/
def readReply : Nat → List UInt8 → Progress
  | 0, _ => .malformed
  | _ + 1, [] => .partly
  | fuel + 1, kind :: bytes =>
    match takeLine? bytes with
    | none => .partly
    | some (text, rest) =>
      match Char.ofNat kind.toNat with
      | '+' => .complete (.status text) rest
      | '-' => .complete (.error (splitError text).1 (splitError text).2) rest
      | ':' => (Text.readInt? text).elim .malformed fun value => .complete (.integer value) rest
      | '$' =>
        match Text.readInt? text with
        | none => .malformed
        | some length =>
          if length < 0 then .complete .missing rest
          else if rest.length < length.toNat + 2 then .partly
          else
            let word := String.ofList (Text.ofUtf8Lossy (rest.take length.toNat))
            .complete (.bulk word) (rest.drop (length.toNat + 2))
      | '*' =>
        match Text.readInt? text with
        | none => .malformed
        | some count =>
          if count < 0 then .complete .missing rest
          else collect (readReply fuel) count.toNat rest []
      | _ => .malformed

end JobDispatch.RedisQueue
