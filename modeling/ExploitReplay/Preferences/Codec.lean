/-!
# Documents of preferences

Preferences are kept in a YAML document. The program neither reads nor writes YAML by itself: it asks
a codec, which is not a part of it. Of a document that has been read it looks at the keys that are
texts, at whether a value is null, and at the text of a value otherwise; it writes mappings between
texts only. What is known of every codec is that the keys of a mapping differ, and that no carriage
return is written.

## Main definitions

* `Preferences.Document`: a document, as far as the program looks into it
* `Preferences.Codec`: how documents are read and written
* `Preferences.KeysDiffer pairs`: no text is the key of two pairs
* `Preferences.Codec.Documented c`: what is known of a codec
-/

namespace ExploitReplay.Preferences

/-- The key of a pair. -/
inductive Key where
  | text (name : String)
  /-- A number, a date, or anything else that is no text. -/
  | other
deriving DecidableEq, Repr

/-- The value of a pair. -/
inductive Value where
  | null
  /-- Anything but null, with the text for it; there is none for a value that cannot be written. -/
  | given (text : Option String)
deriving DecidableEq, Repr

/-- A document, as far as the program looks into it. -/
inductive Document where
  | mapping (pairs : List (Key × Value))
  /-- Anything but a mapping. -/
  | other
deriving DecidableEq, Repr

/-- Why there is no document in a text, in the words of the codec. -/
inductive Codec.Fault where
  /-- The text is no YAML. -/
  | notYaml (message : String)
  /-- The text has the form of a document, but a value in it is none. -/
  | badValue (message : String)
deriving DecidableEq, Repr

/-- How the document in a text is read, and how a mapping between texts is written. -/
structure Codec where
  read : String → Except Codec.Fault Document
  write : List (String × String) → String

/-- No text is the key of two pairs. -/
def KeysDiffer (pairs : List (Key × Value)) : Prop :=
  pairs.Pairwise fun a b => ∀ name, a.1 = .text name → b.1 ≠ .text name

/-- What is known of a codec. -/
structure Codec.Documented (c : Codec) : Prop where
  keysDiffer : ∀ text pairs, c.read text = .ok (.mapping pairs) → KeysDiffer pairs
  noReturn : ∀ pairs, '\r' ∉ (c.write pairs).toList

end ExploitReplay.Preferences
