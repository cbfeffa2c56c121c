import ConsoleSweep.Text

/-!
# The UTF-8 form of a text

* `Text.decode?_eq_some_iff`: the bytes that decode are exactly the encoded texts.
* `Text.size_encode`: the encoded size is the byte length.
-/

namespace ConsoleSweep.Text

/-- The UTF-8 form. -/
def encode (text : Text) : ByteArray := (String.ofList text).toUTF8

/-- The text of these bytes, unless they are no UTF-8 form. -/
def decode? (bytes : ByteArray) : Option Text := (String.fromUTF8? bytes).map String.toList

/-- Decoding accepts exactly what encoding produces. -/
theorem decode?_eq_some_iff {bytes : ByteArray} {text : Text} :
    decode? bytes = some text ↔ bytes = text.encode := by
  unfold decode? encode String.fromUTF8?
  constructor
  · intro h
    split at h
    · simp only [Option.map_some, Option.some.injEq] at h
      subst h
      simp [String.fromUTF8]
    · simp at h
  · rintro rfl
    have hv : (String.ofList text).toUTF8.IsValidUTF8 := (String.ofList text).isValidUTF8
    rw [dif_pos hv]
    exact congrArg some String.toList_ofList

theorem decode?_encode (text : Text) : decode? text.encode = some text :=
  decode?_eq_some_iff.mpr rfl

/-- Different texts have different forms. -/
theorem encode_inj {text text' : Text} : text.encode = text'.encode ↔ text = text' := by
  constructor
  · intro h
    have hdecode := decode?_encode text
    rw [h, decode?_encode, Option.some.injEq] at hdecode
    exact hdecode.symm
  · rintro rfl
    rfl

theorem isValidUTF8_encode (text : Text) : text.encode.IsValidUTF8 :=
  (String.ofList text).isValidUTF8

theorem decode?_eq_none_iff {bytes : ByteArray} : decode? bytes = none ↔ ¬ bytes.IsValidUTF8 := by
  simp [decode?, String.fromUTF8?]

/-- The encoded size is the byte length. -/
theorem size_encode (text : Text) : text.encode.size = text.byteLength := by
  have h : text.encode = (text.flatMap String.utf8EncodeChar).toByteArray := rfl
  rw [h, List.size_toByteArray]
  clear h
  induction text with
  | nil => rfl
  | cons c rest ih =>
    rw [List.flatMap_cons, List.length_append, String.length_utf8EncodeChar, ih, byteLength_cons]

end ConsoleSweep.Text
