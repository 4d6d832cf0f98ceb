import SchemaForms.Url.Segments

/-!
# Proofs/Url/Encoding — encoded texts decode

A text that is encoded decodes to itself, as long as the percent sign is among the characters that
are encoded (`decodeText?_encode`): then every percent sign of the encoded text begins a byte.  For
the same reason an encoded text asks to stay or to go up only if the text is a dot or two
(`ofSegment_encode`).  Where slashes are encoded, it holds none (`slash_not_mem_encode`).
-/

namespace SchemaForms

namespace Percent

variable {mustEncode : Char → Bool} {text : List Char}

/-! ## Bytes -/

theorem digit?_hexDigit {d : Nat} (hd : d < 16) : Numeral.digit? 16 (hexDigit d) = some d := by
  revert d
  decide

/-- **An encoded byte is read as the byte.** -/
theorem decode_byte (b : UInt8) (rest : List Char) : decode (byte b ++ rest) = b :: decode rest := by
  have hb : b.toNat < 256 := b.toNat_lt
  rw [byte, List.cons_append, List.cons_append, List.cons_append, List.nil_append, decode,
    digit?_hexDigit (by omega), digit?_hexDigit (by omega)]
  dsimp only
  rw [Nat.div_add_mod]
  simp

theorem decode_bytes (bytes : List UInt8) (rest : List Char) :
    decode (bytes.flatMap byte ++ rest) = bytes ++ decode rest := by
  induction bytes with
  | nil => rfl
  | cons b bytes ih => rw [List.flatMap_cons, List.append_assoc, decode_byte, ih, List.cons_append]

/-- Characters other than the percent sign stand for themselves. -/
theorem decode_cons {c : Char} (hc : c ≠ '%') (rest : List Char) :
    decode (c :: rest) = String.utf8EncodeChar c ++ decode rest := by
  rw [decode]
  rintro _ _ _ rfl -
  exact hc rfl

/-! ## Texts -/

/-- **An encoded text stands for the bytes of the text.** -/
theorem decode_encode (hpercent : mustEncode '%' = true) (text : List Char) :
    decode (encode mustEncode text) = text.flatMap String.utf8EncodeChar := by
  induction text with
  | nil => rfl
  | cons c rest ih =>
    change decode ((if mustEncode c then char c else [c]) ++ encode mustEncode rest) = _
    rw [List.flatMap_cons, ← ih]
    split
    · exact decode_bytes _ _
    · rename_i hc
      refine decode_cons ?_ _
      rintro rfl
      exact hc hpercent

/-- The bytes of a text are those of no other. -/
theorem decodeText?_of_decode {segment : List Char}
    (h : decode segment = text.flatMap String.utf8EncodeChar) : decodeText? segment = some text := by
  have hbytes : (⟨(decode segment).toArray⟩ : ByteArray) = (String.ofList text).toByteArray := by
    rw [h, String.toByteArray_ofList]
    exact ByteArray.ext List.data_toByteArray.symm
  have hread : String.fromUTF8? ⟨(decode segment).toArray⟩ = some (String.ofList text) := by
    rw [hbytes, String.fromUTF8?, dif_pos (String.ofList text).isValidUTF8]
    rfl
  rw [decodeText?, hread, Option.map_some, String.toList_ofList]

/-- **An encoded text decodes to the text.** -/
theorem decodeText?_encode (hpercent : mustEncode '%' = true) (text : List Char) :
    decodeText? (encode mustEncode text) = some text :=
  decodeText?_of_decode (decode_encode hpercent text)

theorem encode_inj (hpercent : mustEncode '%' = true) {a b : List Char}
    (h : encode mustEncode a = encode mustEncode b) : a = b := by
  have hdecoded := congrArg decodeText? h
  rw [decodeText?_encode hpercent, decodeText?_encode hpercent] at hdecoded
  exact Option.some.inj hdecoded

theorem hexDigit_ne_slash {d : Nat} (hd : d < 16) : hexDigit d ≠ '/' := by
  revert d
  decide

/-- **An encoded text holds no slash**, if slashes are encoded. -/
theorem slash_not_mem_encode (hslash : mustEncode '/' = true) (text : List Char) :
    '/' ∉ encode mustEncode text := by
  intro hmem
  obtain ⟨c, -, hc⟩ := List.mem_flatMap.mp hmem
  split at hc
  · obtain ⟨b, -, hb⟩ := List.mem_flatMap.mp hc
    have hlt : b.toNat < 256 := b.toNat_lt
    have hhigh := hexDigit_ne_slash (d := b.toNat / 16) (by omega)
    have hlow := hexDigit_ne_slash (d := b.toNat % 16) (by omega)
    simp [byte, hhigh.symm, hlow.symm] at hb
  · rename_i hplain
    obtain rfl := List.mem_singleton.mp hc
    exact hplain hslash

end Percent

namespace Url

open Percent

variable {mustEncode : Char → Bool} {text : List Char}

/-! ## Dots -/

/-- What is read as a dot stands for one, encoded or not. -/
theorem decode_of_plainDots {segment rest : List Char} (h : plainDots segment = '.' :: rest) :
    ∃ after, plainDots after = rest ∧
      decode segment = String.utf8EncodeChar '.' ++ decode after := by
  rw [plainDots.eq_def] at h
  split at h
  · rename_i c after
    split at h
    · rename_i hc
      refine ⟨after, (List.cons.inj h).2, ?_⟩
      rcases hc with rfl | rfl <;> rfl
    · exact absurd (List.cons.inj h).1 (by decide)
  · rename_i c after hplain
    obtain ⟨rfl, hrest⟩ := List.cons.inj h
    exact ⟨after, hrest, decode_cons (by decide) after⟩
  · exact absurd h nofun

theorem decode_of_plainDots_replicate (n : Nat) {segment : List Char}
    (h : plainDots segment = List.replicate n '.') :
    decode segment = (List.replicate n '.').flatMap String.utf8EncodeChar := by
  induction n generalizing segment with
  | zero =>
    have hnil : segment = [] := by
      cases segment with
      | nil => rfl
      | cons c rest =>
        rw [plainDots.eq_def] at h
        split at h
        · split at h <;> exact absurd h nofun
        · exact absurd h nofun
        · contradiction
    rw [hnil]
    rfl
  | succ n ih =>
    obtain ⟨after, hafter, hdecode⟩ := decode_of_plainDots h
    rw [hdecode, ih hafter, List.replicate_succ, List.flatMap_cons]

/-- What an encoded text is read as, if it is read as dots, is the text. -/
theorem eq_replicate_of_plainDots (hpercent : mustEncode '%' = true) (n : Nat)
    (h : plainDots (encode mustEncode text) = List.replicate n '.') :
    text = List.replicate n '.' := by
  have hdots := decodeText?_of_decode (decode_of_plainDots_replicate n h)
  rw [decodeText?_encode hpercent] at hdots
  exact Option.some.inj hdots

/-- **An encoded text is entered**, unless the text is a dot or two. -/
theorem ofSegment_encode (hpercent : mustEncode '%' = true) (hdot : text ≠ ['.'])
    (hdots : text ≠ ['.', '.']) :
    Move.ofSegment (encode mustEncode text) = .enter (encode mustEncode text) := by
  have hone : plainDots (encode mustEncode text) ≠ ['.'] := fun h =>
    hdot (eq_replicate_of_plainDots hpercent 1 h)
  have htwo : plainDots (encode mustEncode text) ≠ ['.', '.'] := fun h =>
    hdots (eq_replicate_of_plainDots hpercent 2 h)
  rw [Move.ofSegment, if_neg hone, if_neg htwo]

end Url

end SchemaForms
