import Jukebox.Wire

/-
# Lines on a stream

What one side writes as a line, the other reads as that line. The byte that ends a line belongs to the
encoding of no other character, so a line ends where it was ended, and what is read of it is what was
written unless that ends in a carriage return. Of a line that is cut off nothing is read, or else a
text that the line begins with: a cut through a character does not make another character of it.
-/

namespace Jukebox

namespace Text

theorem encodeUtf8_eq (text : String) :
    encodeUtf8 text = text.toList.flatMap String.utf8EncodeChar := by
  have hbytes : text.toUTF8 = (text.toList.flatMap String.utf8EncodeChar).toByteArray := by
    rw [String.toUTF8_eq_toByteArray]
    exact congrArg String.toByteArray (String.ofList_toList (s := text)).symm
  rw [encodeUtf8, hbytes, List.data_toByteArray]

theorem decodeUtf8_encodeUtf8 (text : String) : decodeUtf8 (encodeUtf8 text) = .ok text := by
  have hbytes : ByteArray.mk (encodeUtf8 text).toArray = text.toByteArray := rfl
  unfold decodeUtf8 String.fromUTF8?
  rw [hbytes, dif_pos text.isValidUTF8]
  rfl

theorem encodeUtf8_of_decodeUtf8 {bytes : List UInt8} {text : String}
    (h : decodeUtf8 bytes = .ok text) : encodeUtf8 text = bytes := by
  unfold decodeUtf8 String.fromUTF8? at h
  split at h
  · next found hfound =>
    cases h
    split at hfound
    · cases hfound
      rfl
    · cases hfound
  · cases h

/-- What follows whole characters in well-formed bytes is well-formed itself. -/
theorem isValidUTF8_of_append {chars : List Char} {rest : ByteArray}
    (h : (chars.utf8Encode ++ rest).IsValidUTF8) : rest.IsValidUTF8 := by
  induction chars with
  | nil => simpa using h
  | cons c chars ih =>
    rw [List.utf8Encode_cons, ByteArray.append_assoc] at h
    exact ih (ByteArray.isValidUTF8_utf8Encode_singleton_append_iff.1 h)

/-- A text whose bytes another text begins with is what that text begins with. -/
theorem prefix_of_prefix_encodeUtf8 {first second : String}
    (h : encodeUtf8 first <+: encodeUtf8 second) : first.toList <+: second.toList := by
  obtain ⟨rest, hrest⟩ := h
  have hbytes : first.toByteArray ++ rest.toByteArray = second.toByteArray := by
    rw [ByteArray.ext_iff, ByteArray.data_append, ← Array.toList_inj, Array.toList_append,
      List.toList_data_toByteArray]
    exact hrest
  have hvalid : (first.toList.utf8Encode ++ rest.toByteArray).IsValidUTF8 := by
    rw [String.utf8Encode_toList, hbytes]
    exact second.isValidUTF8
  obtain ⟨chars, hchars⟩ := isValidUTF8_of_append hvalid
  have hsecond : first ++ String.ofList chars = second := by
    rw [← String.toByteArray_inj, String.toByteArray_append, String.toByteArray_ofList, ← hchars,
      hbytes]
  rw [← hsecond, String.toList_append]
  exact List.prefix_append _ _

theorem isDigit_of_mem_toString {n : Nat} {c : Char} (h : c ∈ (toString n).toList) : c.isDigit := by
  have hdigits : (toString n).toList = Nat.toDigits 10 n := by
    rw [Nat.toString_eq_repr, Nat.repr_eq_ofList_toDigits, String.toList_ofList]
  rw [hdigits] at h
  exact Nat.isDigit_of_mem_toDigits (by decide) (by decide) h

end Text

namespace Wire

open Text

/-- A character of more than one byte has only bytes above those of the other characters. -/
theorem newline_mem_utf8EncodeChar_iff {c : Char} :
    newline ∈ String.utf8EncodeChar c ↔ c = '\n' := by
  have hchar : c = '\n' ↔ c.val.toNat = 10 := by
    rw [Char.ext_iff, ← UInt32.toNat_inj]
    rfl
  have hbyte (n : Nat) : newline = UInt8.ofNat n ↔ n % 256 = 10 := by
    rw [← UInt8.toNat_inj, UInt8.toNat_ofNat', eq_comm]
    rfl
  rw [hchar]
  unfold String.utf8EncodeChar
  dsimp only
  split
  · rw [List.mem_singleton, hbyte]
    omega
  · split
    · simp only [List.mem_cons, hbyte, List.not_mem_nil, or_false]
      omega
    · split
      · simp only [List.mem_cons, hbyte, List.not_mem_nil, or_false]
        omega
      · simp only [List.mem_cons, hbyte, List.not_mem_nil, or_false]
        omega

theorem newline_mem_encodeUtf8_iff {text : String} :
    newline ∈ encodeUtf8 text ↔ '\n' ∈ text.toList := by
  simp [encodeUtf8_eq, newline_mem_utf8EncodeChar_iff]

theorem encodeUtf8_line (line : String) :
    encodeUtf8 (line ++ "\n") = encodeUtf8 line ++ [newline] := by
  rw [encodeUtf8_eq, encodeUtf8_eq, String.toList_append, List.flatMap_append]
  rfl

theorem takeLine_append_newline {line : List UInt8} (h : newline ∉ line) (rest : List UInt8) :
    takeLine (line ++ newline :: rest) = (line ++ [newline], rest) := by
  induction line with
  | nil => simp [takeLine]
  | cons b line ih =>
    rw [List.mem_cons, not_or] at h
    obtain ⟨hb, hline⟩ := h
    rw [List.cons_append, takeLine, if_neg (Ne.symm hb), ih hline]
    rfl

theorem takeLine_of_not_mem {line : List UInt8} (h : newline ∉ line) :
    takeLine line = (line, []) := by
  induction line with
  | nil => rfl
  | cons b line ih =>
    rw [List.mem_cons, not_or] at h
    obtain ⟨hb, hline⟩ := h
    rw [takeLine, if_neg (Ne.symm hb), ih hline]

theorem chomp_line {line : String} (hnewline : '\n' ∉ line.toList)
    (hreturn : line.toList.getLast? ≠ some '\r') : chomp (line ++ "\n") = line := by
  have hreverse : (line ++ "\n").toList.reverse = '\n' :: line.toList.reverse := by
    rw [String.toList_append, List.reverse_append]
    rfl
  unfold chomp dropEnd
  rw [hreverse, List.dropWhile_cons_of_pos (by decide)]
  have hkept : line.toList.reverse.dropWhile (fun c => c == '\r' || c == '\n') =
      line.toList.reverse := by
    cases hchars : line.toList.reverse with
    | nil => rfl
    | cons c chars =>
      have hlast : c ≠ '\r' := by
        rintro rfl
        exact hreturn (by rw [← List.head?_reverse, hchars, List.head?_cons])
      have hmem : c ≠ '\n' := by
        rintro rfl
        exact hnewline (List.mem_reverse.1 (hchars ▸ List.mem_cons_self))
      exact List.dropWhile_cons_of_neg (by simp [hlast, hmem])
  rw [hkept, List.reverse_reverse, String.ofList_toList]

theorem prefix_chomp (line : String) : (chomp line).toList <+: line.toList := by
  unfold chomp dropEnd
  rw [String.toList_ofList, ← List.reverse_suffix, List.reverse_reverse]
  exact List.dropWhile_suffix _

/-- A line is read as it was written, and what follows it stays unread. -/
theorem readLine_line {line : String} (hnewline : '\n' ∉ line.toList)
    (hreturn : line.toList.getLast? ≠ some '\r') (rest : List UInt8) :
    readLine (encodeUtf8 (line ++ "\n") ++ rest) = (.ok line, rest) := by
  have hbytes : newline ∉ encodeUtf8 line := fun h => hnewline (newline_mem_encodeUtf8_iff.1 h)
  have htaken : takeLine (encodeUtf8 (line ++ "\n") ++ rest) =
      (encodeUtf8 (line ++ "\n"), rest) := by
    rw [encodeUtf8_line, List.append_assoc]
    exact takeLine_append_newline hbytes rest
  have hnonempty : (encodeUtf8 (line ++ "\n") ++ rest).isEmpty = false := by
    rw [encodeUtf8_line]
    simp
  have htext : lineText (encodeUtf8 (line ++ "\n")) = .ok line := by
    rw [lineText, decodeUtf8_encodeUtf8]
    exact congrArg Except.ok (chomp_line hnewline hreturn)
  unfold readLine
  rw [hnonempty, htaken, if_neg Bool.false_ne_true]
  dsimp only
  rw [htext]

/-- Of a line that is cut off nothing is read, or a text that the line begins with. -/
theorem readLine_of_cut {line : String} (hnewline : '\n' ∉ line.toList) {cut : List UInt8}
    (hcut : cut <+: encodeUtf8 line) :
    (∃ error, readLine cut = (.error error, []) ∧ error.isBroken) ∨
      ∃ text, readLine cut = (.ok text, []) ∧ text.toList <+: line.toList := by
  cases cut with
  | nil => exact .inl ⟨closed, rfl, rfl⟩
  | cons b cut =>
    have hbytes : newline ∉ b :: cut := fun h =>
      hnewline (newline_mem_encodeUtf8_iff.1 (hcut.subset h))
    have hread : readLine (b :: cut) = (lineText (b :: cut), []) := by
      rw [readLine, takeLine_of_not_mem hbytes]
      rfl
    rw [hread]
    unfold lineText
    cases hdecoded : decodeUtf8 (b :: cut) with
    | error fault => exact .inl ⟨noText, rfl, rfl⟩
    | ok text =>
      refine .inr ⟨chomp text, rfl, (prefix_chomp text).trans (prefix_of_prefix_encodeUtf8 ?_)⟩
      rwa [encodeUtf8_of_decodeUtf8 hdecoded]

end Wire

end Jukebox
