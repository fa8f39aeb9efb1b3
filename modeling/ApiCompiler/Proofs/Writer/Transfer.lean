import ApiCompiler.Writer
import Mathlib.Data.List.TakeDrop

/-!
# Sending what was written

A writer sends its chunks one by one and stops at the first that is refused. A destination cannot
tell this from receiving the whole text at once.
-/

namespace ApiCompiler

open Text

@[simp] theorem Text.Utf8.encode_empty : Utf8.encode "" = [] := rfl

theorem Text.Utf8.encode_append (s t : String) :
    Utf8.encode (s ++ t) = Utf8.encode s ++ Utf8.encode t := by
  simp [Utf8.encode, String.toUTF8, String.toByteArray_append]

namespace Receiver

/-- Bytes that are accepted leave the room for the rest. -/
theorem accept_append_of_accepted (r : Receiver) (first rest : List UInt8)
    (accepted : (r.accept first).failed = false) :
    r.accept (first ++ rest) =
      { (r.accept first).receiver.accept rest with
        count := (r.accept first).count + ((r.accept first).receiver.accept rest).count } := by
  rcases r with ⟨received, _ | room⟩
  · simp [accept, portion]
  · have fits : first.length ≤ room := by
      simp only [accept, portion, decide_eq_false_iff_not, List.length_take] at accepted
      omega
    have whole : first.take room = first := List.take_of_length_le fits
    simp [accept, portion, List.take_append, whole]
    omega

/-- Bytes that are refused leave no room for the rest. -/
theorem accept_append_of_refused (r : Receiver) (first rest : List UInt8)
    (refused : (r.accept first).failed = true) : r.accept (first ++ rest) = r.accept first := by
  rcases r with ⟨received, _ | room⟩
  · simp [accept, portion] at refused
  · have short : room < first.length := by
      simp only [accept, portion, decide_eq_true_eq, List.length_take] at refused
      omega
    have taken : (first ++ rest).take room = first.take room :=
      List.take_append_of_le_length (Nat.le_of_lt short)
    have refusedWhole : (first.take room).length < (first ++ rest).length := by
      rw [List.length_take, List.length_append]
      omega
    have refusedFirst : (first.take room).length < first.length := by
      rw [List.length_take]
      omega
    simp only [accept, portion, taken, refusedWhole, refusedFirst]

/-- Something is refused exactly when not everything is taken. -/
theorem failed_accept_iff (r : Receiver) (bytes : List UInt8) :
    (r.accept bytes).failed = true ↔ r.portion bytes ≠ bytes := by
  rcases r with ⟨received, _ | room⟩
  · simp [accept, portion]
  · have taken_iff : bytes.take room = bytes ↔ ¬room < bytes.length := by simp
    simp only [accept, portion, decide_eq_true_eq, List.length_take, ne_eq, taken_iff]
    omega

end Receiver

namespace Chunk

mutual

/-- A chunk is sent as its text. -/
theorem writeTo_eq : (c : Chunk) → (r : Receiver) →
    c.writeTo r = r.accept (Utf8.encode c.render)
  | text _, _ => rfl
  | nested _ chunks, r => writeAllTo_eq chunks r

/-- Chunks are sent as their text. -/
theorem writeAllTo_eq : (chunks : List Chunk) → (r : Receiver) →
    writeAllTo chunks r = r.accept (Utf8.encode (renderAll chunks))
  | [], ⟨_, none⟩ => by simp [writeAllTo, renderAll, Receiver.accept, Receiver.portion]
  | [], ⟨_, some _⟩ => by simp [writeAllTo, renderAll, Receiver.accept, Receiver.portion]
  | c :: rest, r => by
    rw [renderAll, Utf8.encode_append, writeAllTo, writeTo_eq c r]
    by_cases refused : (r.accept (Utf8.encode c.render)).failed = true
    · rw [Receiver.accept_append_of_refused r _ _ refused]
      simp [refused]
    · have accepted := Bool.eq_false_iff.mpr refused
      rw [Receiver.accept_append_of_accepted r _ _ accepted, ← writeAllTo_eq rest]
      simp [accepted]

end

mutual

/-- Nothing was written to a chunk exactly when its text is empty. -/
theorem isEmpty_iff : (c : Chunk) → (c.isEmpty = true ↔ c.render = "")
  | text _ => by simp [isEmpty, render]
  | nested _ chunks => by simpa [isEmpty, render] using allEmpty_iff chunks

/-- Nothing was written to some chunks exactly when their text is empty. -/
theorem allEmpty_iff : (chunks : List Chunk) → (allEmpty chunks = true ↔ renderAll chunks = "")
  | [] => by simp [allEmpty, renderAll]
  | c :: rest => by
    simp [allEmpty, renderAll, String.append_eq_empty_iff, isEmpty_iff c, allEmpty_iff rest]

end

end Chunk

namespace Writer

/-- A writer sends its text. -/
theorem writeTo_eq (w : Writer) (r : Receiver) : w.writeTo r = r.accept (Utf8.encode w.text) :=
  Chunk.writeAllTo_eq w.chunks r

/-- Nothing was written exactly when the text is empty. -/
theorem isEmpty_eq_true_iff (w : Writer) : w.isEmpty = true ↔ w.text = "" :=
  Chunk.allEmpty_iff w.chunks

end Writer

end ApiCompiler
