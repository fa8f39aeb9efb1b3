import ApiCompiler.Text.Utf8

/-!
# Texts as they are given

A text in a definition may be given as binary data, whose bytes need not be characters in UTF-8.
A raw text keeps them. Where it has to be shown, every byte that belongs to no character becomes
the replacement character.
-/

namespace ApiCompiler.Text

/-- A text, or bytes that are no text in UTF-8. -/
inductive RawText where
  | text (s : String)
  | stray (bytes : List UInt8) (invalid : ¬ bytes.toByteArray.IsValidUTF8)
deriving DecidableEq, Repr

namespace RawText

instance : Coe String RawText := ⟨text⟩

/-- The raw text of some bytes. -/
def ofBytes (bytes : List UInt8) : RawText :=
  if valid : bytes.toByteArray.IsValidUTF8 then text (String.ofByteArray bytes.toByteArray valid)
  else stray bytes valid

/-- The bytes of a raw text. -/
def bytes : RawText → List UInt8
  | text s => Utf8.encode s
  | stray bytes _ => bytes

/-- A raw text as it is shown, wherever a text is needed. -/
def shown : RawText → String
  | text s => s
  | stray bytes _ => Utf8.decode (bytes.map UInt8.toNat)

instance : Coe RawText String := ⟨shown⟩

/-- The characters of a raw text, and nothing for every byte that belongs to none. -/
def pieces : RawText → List (Option Char)
  | text s => s.toList.map some
  | stray bytes _ => Utf8.pieces (bytes.map UInt8.toNat)

/-- All bytes belong to characters. -/
def isText : RawText → Bool
  | text _ => true
  | stray _ _ => false

@[simp] theorem shown_text (s : String) : (text s).shown = s :=
  rfl

@[simp] theorem isText_text (s : String) : (text s).isText = true :=
  rfl

theorem isText_iff {r : RawText} : r.isText = true ↔ r = text r.shown := by
  cases r with
  | text s => exact iff_of_true rfl rfl
  | stray bytes invalid => exact iff_of_false nofun nofun

/-- Only the empty text is shown as nothing. -/
theorem shown_eq_empty_iff {r : RawText} : r.shown = "" ↔ r = text "" := by
  cases r with
  | text s => rw [shown_text, text.injEq]
  | stray bytes invalid =>
      refine iff_of_false ?_ nofun
      cases bytes with
      | nil => exact absurd (by decide) invalid
      | cons b rest => exact Utf8.decode_cons_ne_empty _ _

/-- A raw text is determined by its bytes. -/
theorem ofBytes_bytes (r : RawText) : ofBytes r.bytes = r := by
  cases r with
  | text s =>
      have same : (Utf8.encode s).toByteArray = s.toByteArray :=
        ByteArray.ext (Array.toList_inj.mp List.toList_data_toByteArray)
      rw [bytes, ofBytes]
      simp only [same, s.isValidUTF8, dite_true]
  | stray bytes invalid => exact dif_neg invalid

end RawText

end ApiCompiler.Text
