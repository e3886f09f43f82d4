import HubAuth.Base64.Symbol
import HubAuth.Text.Utf8

/-! # PEM

  Binary data in a text: base64 between a line that begins a block of some
  label and a line that ends it. Whatever stands between blocks is passed over.

  Lines are cut at a fixed width, and what is at the end of a line and not a
  visible ASCII character is dropped. A block may hold headers in front of its
  data, divided from it by an empty line; data after such a line keeps to lines
  of 64 characters, of which only the last may be shorter.

  A text is read into the blocks that it holds, with a note of every one that
  is not well formed; reading goes on behind the line that shows it.
-/

namespace HubAuth.Pem

/-! ### Lines -/

/-- One line or a part of one, with its line feed if it has one. -/
abbrev Line := List UInt8

/-- The most bytes that are taken as one line. -/
def maxLine : Nat := 254

/-- The lines of a text. The number is how many bytes the first may hold. -/
def linesFrom : Nat → List UInt8 → List Line
  | _, [] => []
  | room, b :: bs =>
    if b = 10 ∨ room ≤ 1 then [b] :: linesFrom maxLine bs
    else
      match linesFrom (room - 1) bs with
      -- The last line of a text needs no line feed.
      | [] => [[b]]
      | l :: ls => (b :: l) :: ls

/-- The lines of a text. -/
def lines (text : List UInt8) : List Line :=
  linesFrom maxLine text

/-- A byte that is dropped at the end of a line. -/
def isDropped (b : UInt8) : Bool :=
  b.toNat ≤ 32 || 128 ≤ b.toNat

/-- A line without its end. -/
def trimEnd (l : Line) : Line :=
  (l.reverse.dropWhile isDropped).reverse

/-- The line is a part of a longer one, which goes on. -/
def isCut (l : Line) : Bool :=
  l.length == maxLine && l.getLast? != some 10

/-- A line without a byte order mark in front. -/
def dropMark : Line → Line
  | 0xEF :: 0xBB :: 0xBF :: b :: bs => b :: bs
  | l => l

/-- The part of a line in front of a zero byte. -/
def untilZero (l : Line) : Line :=
  l.takeWhile (· != 0)

/-! ### Boundaries -/

/-- The bytes of a text. -/
def bytes (s : String) : Line :=
  Text.Utf8.encode s.toList

/-- What the first line of a block begins with. -/
def opener : Line := bytes "-----BEGIN "

/-- What the last line of a block begins with. -/
def closer : Line := bytes "-----END "

/-- What both of them end with. -/
def dashes : Line := bytes "-----"

/-- The label of a first line of a block. -/
def label? (l : Line) : Option Line :=
  match opener.isPrefixOf? l with
  | none => none
  | some rest =>
    if dashes.isSuffixOf rest then some (untilZero (rest.take (rest.length - dashes.length)))
    else none

/-! ### Data -/

/-- White space among base64 symbols. -/
def isSpace (b : UInt8) : Bool :=
  b == 9 || b == 10 || b == 13 || b == 32

/-- The value of a symbol. -/
def symbol? (b : UInt8) : Option Nat :=
  Base64.value? (Char.ofNat b.toNat)

/-- The bytes that data stands for. It ends at a dash; unused bits do not
    count, and there must be at least one byte. -/
def decode? (data : List UInt8) : Option (List UInt8) :=
  let symbols := (data.takeWhile (· != 45)).filter fun b => !isSpace b
  let body := symbols.takeWhile (· != 61)
  let padding := symbols.dropWhile (· != 61)
  if symbols.length % 4 ≠ 0 ∨ 2 < padding.length ∨ padding.any (· != 61) then none
  else
    match body.mapM symbol? with
    | none => none
    | some values => if values.isEmpty then none else some (Base64.octets values)

/-! ### Blocks -/

/-- A block. -/
structure Block where
  /-- Its label. -/
  label : Line
  /-- The text of its headers. -/
  header : List UInt8
  /-- Its data. -/
  data : List UInt8
  deriving DecidableEq, Repr

/-- Where in a block the reader is. -/
inductive Part where
  /-- There may be headers, but none has been seen. -/
  | start
  /-- Among headers. -/
  | headers
  /-- After the empty line. A line was shorter than 64 characters or not. -/
  | data (short : Bool)
  deriving DecidableEq, Repr

/-- A block that is being read. -/
structure Draft where
  /-- Its label. -/
  label : Line
  /-- Where the reader is. -/
  part : Part := .start
  /-- The line before is a part of a longer one. -/
  cut : Bool := false
  /-- The lines that were read before an empty line, the last first. -/
  front : List Line := []
  /-- The lines that were read after it, the last first. -/
  back : List Line := []

namespace Draft

/-- The finished block, if it has data. Without an empty line there are no
    headers. -/
def finish (b : Draft) : Option Block :=
  let front := b.front.reverse.flatten
  let back := b.back.reverse.flatten
  let (header, payload) := if b.part = .start then ([], front) else (front, back)
  (decode? payload).map fun data => { label := b.label, header, data }

/-- What a line does to a block. -/
inductive Progress where
  /-- The block goes on. -/
  | more (b : Draft)
  /-- The line ends the block. -/
  | done (b : Draft)
  /-- The line must not stand in a block. -/
  | refused

/-- Takes up one line. -/
def take (b : Draft) (l : Line) : Progress :=
  -- A colon in a line says that the block has headers.
  let part := if b.part = .start ∧ l.contains 58 then .headers else b.part
  let text := trimEnd l
  -- What follows a zero byte in a line is lost.
  let kept := untilZero (text ++ [10])
  let wasCut := b.cut
  let b := { b with part, cut := isCut l }
  match part, closer.isPrefixOf? text with
  | _, some rest => if rest = b.label ++ dashes then .done b else .refused
  -- After a short line the block must end.
  | .data true, none => if text.isEmpty && wasCut then .more b else .refused
  | .data false, none =>
    if text.isEmpty then if wasCut then .more b else .refused
    else if 64 < text.length then .refused
    else .more { b with part := .data (text.length < 64), back := kept :: b.back }
  | _, none =>
    if text.isEmpty then if wasCut then .more b else .more { b with part := .data false }
    else .more { b with front := kept :: b.front }

end Draft

/-! ### Whole texts -/

/-- What the reader is doing. -/
inductive State where
  /-- It looks for a block. The line is the first after the start or after a
      block, or not. -/
  | outside (first : Bool)
  /-- It reads a block. -/
  | inside (b : Draft)

/-- The blocks in some lines; none for a block that is not well formed. -/
def blocksFrom : State → List Line → List (Option Block)
  | .outside _, [] => []
  | .inside _, [] => [none]
  | .outside first, l :: ls =>
    match label? (trimEnd (if first then dropMark l else l)) with
    | some label => blocksFrom (.inside { label }) ls
    | none => blocksFrom (.outside false) ls
  | .inside b, l :: ls =>
    match b.take l with
    | .refused => none :: blocksFrom (.outside true) ls
    | .more b => blocksFrom (.inside b) ls
    | .done b => b.finish :: blocksFrom (.outside true) ls

/-- The blocks in a text. -/
def blocks (text : String) : List (Option Block) :=
  blocksFrom (.outside true) (lines (bytes text))

/-- The first block with one of the wanted labels. The blocks before it must be
    well formed, and it must not have headers. -/
def first? (wanted : List Line) : List (Option Block) → Option Block
  | [] => none
  | none :: _ => none
  | some b :: bs =>
    if b.label ∈ wanted then if b.header.isEmpty then some b else none else first? wanted bs

end HubAuth.Pem
