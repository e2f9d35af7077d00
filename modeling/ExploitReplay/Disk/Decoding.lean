/-!
# Texts of files

A file holds bytes. As a text they are read as UTF-8, and where that is tolerated, byte by byte if
they are none. Every line ends with a line feed, however the file ends it.

## Main definitions

* `Decoding.unixLines cs`: the text with every line ending as a line feed
* `Decoding.utf8? bytes`: the text of bytes in UTF-8
* `Decoding.lenient bytes`: the text of any bytes
-/

namespace ExploitReplay.Decoding

/-- The text with every line ending as a line feed. -/
def unixLines : List Char → List Char
  | [] => []
  | '\r' :: '\n' :: cs => '\n' :: unixLines cs
  | c :: cs => (if c = '\r' then '\n' else c) :: unixLines cs

/-- The text of bytes in UTF-8, without a change to its line endings. -/
def exactUtf8? (bytes : ByteArray) : Option String :=
  String.fromUTF8? bytes

/-- A text with its lines ending in line feeds. -/
def withUnixLines (s : String) : String :=
  String.ofList (unixLines s.toList)

/-- The text of bytes in UTF-8. -/
def utf8? (bytes : ByteArray) : Option String :=
  (exactUtf8? bytes).map withUnixLines

/-- The mark that may stand in front of a text in UTF-8. -/
def byteOrderMark : ByteArray :=
  "\uFEFF".toUTF8

/-- Bytes without a mark in front. -/
def withoutMark (bytes : ByteArray) : ByteArray :=
  if (bytes.extract 0 byteOrderMark.size).data = byteOrderMark.data then
    bytes.extract byteOrderMark.size bytes.size
  else bytes

/-- The text whose characters are the bytes. -/
def byteByByte (bytes : ByteArray) : String :=
  String.ofList (bytes.toList.map fun b => Char.ofNat b.toNat)

/-- The text of any bytes: UTF-8 after a mark, and byte by byte where the bytes are none. -/
def lenient (bytes : ByteArray) : String :=
  withUnixLines ((exactUtf8? (withoutMark bytes)).getD (byteByByte bytes))

end ExploitReplay.Decoding
