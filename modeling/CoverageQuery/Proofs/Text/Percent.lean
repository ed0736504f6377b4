import CoverageQuery.Text.Percent
import Mathlib.Data.List.Basic

/-!
# Reading percent encoding back

Decoding gives back the bytes of what was encoded, whatever comes after it. An encoded text has
unreserved characters and percent signs only, so it holds no character that separates parameters.
-/

namespace CoverageQuery.Text.Percent

/-- The bytes of a text in UTF-8. -/
def bytes (text : List Char) : List UInt8 := text.flatMap String.utf8EncodeChar

theorem decodeText?_eq_some_iff {text decoded : List Char} :
    decodeText? text = some decoded ↔ decode text = bytes decoded := by
  have hbytes : ∀ s : String, s.toByteArray = (bytes s.toList).toByteArray :=
    fun s => String.utf8Encode_toList.symm
  have harray : (⟨(decode text).toArray⟩ : ByteArray) = (decode text).toByteArray := by
    rw [ByteArray.ext_iff, List.data_toByteArray]
  rw [decodeText?, Option.map_eq_some_iff, harray]
  constructor
  · rintro ⟨s, hs, rfl⟩
    rw [String.fromUTF8?, Option.dite_none_right_eq_some] at hs
    obtain ⟨hvalid, hs⟩ := hs
    have hdecoded : (decode text).toByteArray = s.toByteArray :=
      congrArg String.toByteArray (Option.some.inj hs)
    rwa [hbytes, List.toByteArray_inj] at hdecoded
  · intro h
    have hvalid : (decode text).toByteArray.IsValidUTF8 := ⟨decoded, congrArg List.toByteArray h⟩
    refine ⟨String.ofList decoded, ?_, String.toList_ofList⟩
    rw [String.fromUTF8?, dif_pos hvalid, Option.some_inj, ← String.toByteArray_inj,
      String.toByteArray_ofList]
    exact congrArg List.toByteArray h

theorem hexDigit?_hexDigit : ∀ n < 16, hexDigit? (hexDigit n) = some n := by decide

theorem isUnreserved_hexDigit : ∀ n < 16, isUnreserved (hexDigit n) = true := by decide

theorem decode_encodeByte (b : UInt8) (rest : List Char) :
    decode (encodeByte b ++ rest) = b :: decode rest := by
  have hb : b.toNat < 256 := b.toNat_lt
  have hhigh := hexDigit?_hexDigit (b.toNat / 16) (by omega)
  have hlow := hexDigit?_hexDigit (b.toNat % 16) (by omega)
  show decode ('%' :: hexDigit (b.toNat / 16) :: hexDigit (b.toNat % 16) :: rest) = _
  rw [decode, hhigh, hlow]
  dsimp only
  rw [Nat.div_add_mod, UInt8.ofNat_toNat]

theorem decode_encodeBytes (bs : List UInt8) (rest : List Char) :
    decode (bs.flatMap encodeByte ++ rest) = bs ++ decode rest := by
  induction bs with
  | nil => rfl
  | cons b bs ih =>
    rw [List.flatMap_cons, List.append_assoc, decode_encodeByte, ih, List.cons_append]

theorem decode_cons {c : Char} (h : c ≠ '%') (rest : List Char) :
    decode (c :: rest) = String.utf8EncodeChar c ++ decode rest := by
  rw [decode]
  rintro high low rest rfl
  exact absurd rfl h

theorem decode_encode_append (text rest : List Char) :
    decode (encode text ++ rest) = bytes text ++ decode rest := by
  induction text with
  | nil => rfl
  | cons c text ih =>
    rw [encode, encodeUnless, List.flatMap_cons, List.append_assoc]
    show decode (encodeChar isUnreserved c ++ (encode text ++ rest)) = _
    rw [bytes, List.flatMap_cons, List.append_assoc, ← bytes, ← ih, encodeChar]
    split
    · next hc =>
      apply decode_cons
      rintro rfl
      exact absurd hc (by decide)
    · exact decode_encodeBytes _ _

theorem decodeText?_encode (text : List Char) : decodeText? (encode text) = some text := by
  have h := decode_encode_append text []
  rw [List.append_nil] at h
  rw [decodeText?_eq_some_iff, h, decode, List.append_nil]

/-- A percent sign stands for itself unless two digits follow it. -/
theorem decode_percent {text : List Char} (h : ∀ high low rest, text = high :: low :: rest →
    ∀ m n, hexDigit? high = some m → hexDigit? low = some n → False) :
    decode ('%' :: text) = String.utf8EncodeChar '%' ++ decode text := by
  match text with
  | [] | [c] => rfl
  | high :: low :: rest =>
    rw [decode]
    split
    · next m n hhigh hlow => exact (h high low rest rfl m n hhigh hlow).elim
    · rfl

/-- What follows a character that is no hexadecimal digit is decoded apart from what is before: a
percent sign at the end of that cannot take the character up. -/
theorem decode_append_cons {c : Char} (hhex : hexDigit? c = none) (hc : c ≠ '%')
    (text rest : List Char) :
    decode (text ++ c :: rest) = decode text ++ String.utf8EncodeChar c ++ decode rest := by
  fun_induction decode text with
  | case1 high low text h l hhigh hlow ih =>
    rw [List.cons_append, List.cons_append, List.cons_append, decode, hhigh, hlow]
    exact congrArg (UInt8.ofNat (16 * h + l) :: ·) ih
  | case2 high low text hnone ih =>
    have hpercent : decode ('%' :: (high :: low :: text ++ c :: rest)) =
        String.utf8EncodeChar '%' ++ decode (high :: low :: text ++ c :: rest) := by
      apply decode_percent
      rintro _ _ _ ⟨⟩
      exact hnone
    exact hpercent.trans (congrArg ('%'.toUInt8 :: ·) ih)
  | case3 d text hd ih =>
    rw [List.append_assoc, List.append_assoc, ← List.append_assoc (decode text), ← ih,
      List.cons_append]
    by_cases hpercent : d = '%'
    · subst hpercent
      apply decode_percent
      intro high low after htext m n hhigh hlow
      match text with
      | [] =>
        cases htext
        rw [hhex] at hhigh
        cases hhigh
      | [x] =>
        cases htext
        rw [hhex] at hlow
        cases hlow
      | x :: y :: text => exact hd x y text rfl rfl
    · exact decode_cons hpercent _
  | case4 => exact decode_cons hc rest

theorem encode_eq_self {text : List Char} (h : ∀ c ∈ text, isUnreserved c = true) :
    encode text = text := by
  induction text with
  | nil => rfl
  | cons c text ih =>
    rw [List.forall_mem_cons] at h
    have hc : encodeChar isUnreserved c = [c] := if_pos h.1
    rw [encode, encodeUnless, List.flatMap_cons, hc]
    exact congrArg (c :: ·) (ih h.2)

theorem isUnreserved_of_mem_encode {text : List Char} {c : Char} (h : c ∈ encode text) :
    isUnreserved c = true ∨ c = '%' := by
  obtain ⟨d, -, hd⟩ := List.mem_flatMap.mp h
  rw [encodeChar] at hd
  split at hd
  · next hkeep =>
    obtain rfl := List.mem_singleton.mp hd
    exact .inl hkeep
  · obtain ⟨b, -, hb⟩ := List.mem_flatMap.mp hd
    have hlt : b.toNat < 256 := b.toNat_lt
    simp only [encodeByte, List.mem_cons, List.not_mem_nil, or_false] at hb
    rcases hb with rfl | rfl | rfl
    · exact .inr rfl
    · exact .inl (isUnreserved_hexDigit _ (by omega))
    · exact .inl (isUnreserved_hexDigit _ (by omega))

theorem not_mem_encode {c : Char} (h : isUnreserved c = false) (hc : c ≠ '%') (text : List Char) :
    c ∉ encode text := by
  intro hmem
  rcases isUnreserved_of_mem_encode hmem with hunreserved | rfl
  · rw [h] at hunreserved
    cases hunreserved
  · exact hc rfl

end CoverageQuery.Text.Percent
