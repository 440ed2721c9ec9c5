import Mathlib.Data.String.Basic

/-! Texts as bytes. A character below 128 is one byte, the byte of its own number, and every byte of
any other character is above that. So a byte below 128 tells where a character starts and where the
next one does, whatever stands around it. -/

namespace SqlLineage.Text

def encode (cs : List Char) : List UInt8 := cs.flatMap String.utf8EncodeChar

def bytes (text : String) : List UInt8 := text.toByteArray.data.toList

theorem bytes_eq (text : String) : bytes text = encode text.toList := by
  have hbytes : bytes (String.ofList text.toList) = encode text.toList := by
    rw [bytes, String.toByteArray_ofList, List.utf8Encode, List.data_toByteArray, encode]
  rwa [String.ofList_toList] at hbytes

theorem length_bytes (text : String) : (bytes text).length = text.utf8ByteSize := rfl

theorem encode_cons (c : Char) (cs : List Char) :
    encode (c :: cs) = String.utf8EncodeChar c ++ encode cs := List.flatMap_cons

theorem encode_append (cs ds : List Char) : encode (cs ++ ds) = encode cs ++ encode ds :=
  List.flatMap_append

theorem length_encode (cs : List Char) : (encode cs).length = String.utf8Len cs := by
  induction cs with
  | nil => rfl
  | cons c cs ih =>
    rw [encode_cons, List.length_append, ih, String.length_utf8EncodeChar, String.utf8Len_cons,
      Nat.add_comm]

/-- The byte is part of a character of several bytes. -/
def IsHigh (b : UInt8) : Prop := 128 ≤ b.toNat

theorem toNat_ofUInt8 (b : UInt8) : (Char.ofUInt8 b).toNat = b.toNat := by
  have hval : (Char.ofUInt8 b).toNat = b.toUInt32.toNat := rfl
  rw [hval, UInt8.toNat_toUInt32]

theorem IsHigh.ofUInt8_ne {b : UInt8} (h : IsHigh b) {c : Char} (hc : c.toNat < 128) :
    Char.ofUInt8 b ≠ c := by
  rintro rfl
  rw [toNat_ofUInt8] at hc
  exact absurd h (Nat.not_le.2 hc)

theorem toNat_toUInt8 {c : Char} (h : c.toNat < 128) : c.toUInt8.toNat = c.toNat := by
  have hval : c.toUInt8.toNat = c.toNat % 256 := UInt32.toNat_toUInt8 c.val
  omega

theorem ofUInt8_toUInt8 {c : Char} (h : c.toNat < 128) : Char.ofUInt8 c.toUInt8 = c := by
  apply Char.toNat_inj.1
  rw [toNat_ofUInt8, toNat_toUInt8 h]

theorem toUInt8_inj {c d : Char} (hc : c.toNat < 128) (hd : d.toNat < 128) :
    c.toUInt8 = d.toUInt8 ↔ c = d := by
  constructor
  · intro h
    rw [← ofUInt8_toUInt8 hc, h, ofUInt8_toUInt8 hd]
  · exact congrArg Char.toUInt8

theorem ne_of_high {c d : Char} (hc : 128 ≤ c.toNat) (hd : d.toNat < 128) : c ≠ d := by
  rintro rfl
  exact absurd hd (Nat.not_lt.2 hc)

theorem toUInt8_ne {a : Char} (ha : a.toNat < 128) {b : UInt8} (hb : IsHigh b) : a.toUInt8 ≠ b := by
  rintro rfl
  exact hb.ofUInt8_ne ha (ofUInt8_toUInt8 ha)

theorem utf8EncodeChar_of_ascii {c : Char} (h : c.toNat < 128) :
    String.utf8EncodeChar c = [c.toUInt8] := by
  have hsize : c.utf8Size = 1 := by
    rw [Char.utf8Size_eq_one_iff, UInt32.le_iff_toNat_le]
    have hnat : c.toNat = c.val.toNat := rfl
    have hlast : (127 : UInt32).toNat = 127 := rfl
    omega
  rw [String.utf8EncodeChar_eq_singleton hsize]
  rfl

theorem encode_of_ascii {c : Char} (h : c.toNat < 128) (cs : List Char) :
    encode (c :: cs) = c.toUInt8 :: encode cs := by
  rw [encode_cons, utf8EncodeChar_of_ascii h, List.singleton_append]

theorem isHigh_of_mem {c : Char} (h : 128 ≤ c.toNat) {b : UInt8}
    (hb : b ∈ String.utf8EncodeChar c) : IsHigh b := by
  have hnat : c.toNat = c.val.toNat := rfl
  have hbyte : ∀ n, 128 ≤ n → n < 256 → IsHigh (UInt8.ofNat n) := by
    intro n hlow hhigh
    rw [IsHigh, UInt8.toNat_ofNat', Nat.mod_eq_of_lt hhigh]
    exact hlow
  unfold String.utf8EncodeChar at hb
  simp only at hb
  rw [if_neg (by omega)] at hb
  split at hb
  · simp only [List.mem_cons, List.not_mem_nil, or_false] at hb
    rcases hb with rfl | rfl <;> exact hbyte _ (by omega) (by omega)
  · split at hb
    · simp only [List.mem_cons, List.not_mem_nil, or_false] at hb
      rcases hb with rfl | rfl | rfl <;> exact hbyte _ (by omega) (by omega)
    · simp only [List.mem_cons, List.not_mem_nil, or_false] at hb
      rcases hb with rfl | rfl | rfl | rfl <;> exact hbyte _ (by omega) (by omega)

theorem exists_encode_cons (c : Char) (cs : List Char) :
    ∃ b mid, String.utf8EncodeChar c = b :: mid ∧ encode (c :: cs) = b :: (mid ++ encode cs) ∧
      (∀ a ∈ mid, IsHigh a) ∧ (128 ≤ c.toNat → IsHigh b) := by
  by_cases hc : c.toNat < 128
  · exact ⟨c.toUInt8, [], utf8EncodeChar_of_ascii hc, encode_of_ascii hc cs,
      fun _ ha => absurd ha List.not_mem_nil, fun hhigh => absurd hhigh (Nat.not_le.2 hc)⟩
  · cases hbytes : String.utf8EncodeChar c with
    | nil =>
      have hlength := String.length_utf8EncodeChar c
      rw [hbytes] at hlength
      exact absurd hlength.symm c.utf8Size_pos.ne'
    | cons b mid =>
      have hhigh : ∀ a ∈ b :: mid, IsHigh a :=
        fun a ha => isHigh_of_mem (Nat.not_lt.1 hc) (hbytes ▸ ha)
      refine ⟨b, mid, rfl, by rw [encode_cons, hbytes]; rfl, ?_, ?_⟩
      · exact fun a ha => hhigh a (List.mem_cons_of_mem b ha)
      · exact fun _ => hhigh b List.mem_cons_self

theorem exists_head_encode {p : Char → Bool} (hp : ∀ c, p c = true → c.toNat < 128) (c : Char)
    (s : List Char) : ∃ b bs, encode (c :: s) = b :: bs ∧ p (Char.ofUInt8 b) = p c := by
  have hhigh : ∀ d, 128 ≤ d.toNat → p d = false :=
    fun d hd => Bool.eq_false_iff.2 fun hpd => absurd (hp d hpd) (Nat.not_lt.2 hd)
  by_cases hc : c.toNat < 128
  · exact ⟨_, _, encode_of_ascii hc s, by rw [ofUInt8_toUInt8 hc]⟩
  · obtain ⟨b, mid, -, hencode, -, hb⟩ := exists_encode_cons c s
    have hb' : 128 ≤ (Char.ofUInt8 b).toNat := by
      rw [toNat_ofUInt8]
      exact hb (Nat.not_lt.1 hc)
    exact ⟨b, _, hencode, by rw [hhigh _ hb', hhigh c (Nat.not_lt.1 hc)]⟩

theorem head?_encode_any {p : Char → Bool} (hp : ∀ c, p c = true → c.toNat < 128)
    (s : List Char) : (encode s).head?.any (fun b => p (Char.ofUInt8 b)) = s.head?.any p := by
  cases s with
  | nil => rfl
  | cons c s =>
    obtain ⟨b, bs, hencode, hb⟩ := exists_head_encode hp c s
    rw [hencode]
    exact hb

theorem head?_encode {d : Char} (hd : d.toNat < 128) (s : List Char) :
    (encode s).head?.map Char.ofUInt8 = some d ↔ s.head? = some d := by
  cases s with
  | nil => simp [encode]
  | cons c s =>
    obtain ⟨b, bs, hencode, hb⟩ :=
      exists_head_encode (p := (· == d)) (fun a ha => beq_iff_eq.1 ha ▸ hd) c s
    rw [Bool.eq_iff_iff, beq_iff_eq, beq_iff_eq] at hb
    rw [hencode, List.head?_cons, List.head?_cons, Option.map_some, Option.some_inj,
      Option.some_inj, hb]

theorem length_encode_of_ascii {w : List Char} (hw : ∀ a ∈ w, a.toNat < 128) :
    (encode w).length = w.length := by
  induction w with
  | nil => rfl
  | cons a w ih =>
    rw [encode_of_ascii (hw a List.mem_cons_self), List.length_cons, List.length_cons,
      ih fun a' ha' => hw a' (List.mem_cons_of_mem a ha')]

/-! ### Places -/

/-- The text goes on with `rest` from byte `i`, where a character starts or the text ends. -/
def StartsAt (text : String) (i : Nat) (rest : List Char) : Prop :=
  ∃ before, text.toList = before ++ rest ∧ i = String.utf8Len before

/-- From byte `i` there may come the last bytes of a character, and then `rest`. -/
def GoesOn (text : String) (i : Nat) (rest : List Char) : Prop :=
  ∃ mid, (∀ b ∈ mid, IsHigh b) ∧ (bytes text).drop i = mid ++ encode rest ∧
    StartsAt text (i + mid.length) rest

variable {text : String} {i : Nat} {w rest : List Char}

theorem startsAt_zero (text : String) : StartsAt text 0 text.toList := ⟨[], rfl, rfl⟩

theorem startsAt_size (text : String) : StartsAt text text.utf8ByteSize [] := by
  refine ⟨text.toList, (List.append_nil _).symm, ?_⟩
  rw [← String.utf8ByteSize_ofList, String.ofList_toList]

namespace StartsAt

theorem add (h : StartsAt text i (w ++ rest)) : StartsAt text (i + String.utf8Len w) rest := by
  obtain ⟨before, htext, rfl⟩ := h
  exact ⟨before ++ w, by rw [htext, List.append_assoc], (String.utf8Len_append before w).symm⟩

theorem add_eq_size (h : StartsAt text i rest) : i + String.utf8Len rest = text.utf8ByteSize := by
  obtain ⟨before, htext, rfl⟩ := h
  rw [← String.utf8Len_append, ← htext, ← String.utf8ByteSize_ofList, String.ofList_toList]

theorem drop (h : StartsAt text i rest) : (bytes text).drop i = encode rest := by
  obtain ⟨before, htext, rfl⟩ := h
  rw [bytes_eq, htext, encode_append, ← length_encode, List.drop_left]

theorem isValid (h : StartsAt text i rest) : String.Pos.Raw.IsValid text ⟨i⟩ := by
  obtain ⟨before, htext, rfl⟩ := h
  refine String.Pos.Raw.isValid_iff_exists_append.2
    ⟨String.ofList before, String.ofList rest, ?_, ?_⟩
  · rw [← String.ofList_append, ← htext, String.ofList_toList]
  · rw [← String.utf8ByteSize_ofList]
    rfl

theorem goesOn (h : StartsAt text i rest) : GoesOn text i rest :=
  ⟨[], fun _ hb => absurd hb List.not_mem_nil, h.drop, h⟩

theorem extract (h : StartsAt text i (w ++ rest)) :
    String.Pos.Raw.extract text ⟨i⟩ ⟨i + String.utf8Len w⟩ = String.ofList w := by
  obtain ⟨before, htext, rfl⟩ := h
  have hwhole : text = String.ofList (before ++ w ++ rest) := by
    rw [List.append_assoc, ← htext, String.ofList_toList]
  rw [hwhole, String.extract_of_valid]

theorem succ {c : Char} (hc : c.toNat < 128) (h : StartsAt text i (c :: rest)) :
    StartsAt text (i + 1) rest := by
  have hlength : String.utf8Len [c] = 1 := by
    rw [← length_encode, encode_of_ascii hc]
    rfl
  rw [← hlength]
  exact h.add

theorem goesOn_succ {c : Char} (h : StartsAt text i (c :: rest)) : GoesOn text (i + 1) rest := by
  obtain ⟨b, mid, hbytes, hencode, hmid, -⟩ := exists_encode_cons c rest
  have hdrop : (bytes text).drop (i + 1) = mid ++ encode rest := by
    rw [← List.drop_drop, h.drop, hencode]
    rfl
  have hlength : String.utf8Len [c] = 1 + mid.length := by
    rw [String.utf8Len_cons, String.utf8Len_nil, ← String.length_utf8EncodeChar, hbytes,
      List.length_cons]
    omega
  refine ⟨mid, hmid, hdrop, ?_⟩
  rw [Nat.add_assoc, ← hlength]
  exact h.add

end StartsAt

inductive Heads (text : String) (i : Nat) (b : UInt8) : List Char → Prop
  | inside {rest : List Char} : IsHigh b → GoesOn text (i + 1) rest → Heads text i b rest
  | high {c : Char} {rest : List Char} : 128 ≤ c.toNat → IsHigh b → GoesOn text (i + 1) rest →
      Heads text i b (c :: rest)
  | ascii {c : Char} {rest : List Char} : c.toNat < 128 → Char.ofUInt8 b = c →
      StartsAt text i (c :: rest) → Heads text i b (c :: rest)

namespace GoesOn

theorem le_size (h : GoesOn text i rest) : i ≤ text.utf8ByteSize := by
  obtain ⟨mid, -, -, hstart⟩ := h
  have hsize := hstart.add_eq_size
  omega

theorem eq_nil (h : GoesOn text i rest) (hi : text.utf8ByteSize ≤ i) : rest = [] := by
  obtain ⟨mid, -, -, hstart⟩ := h
  have hsize := hstart.add_eq_size
  exact String.utf8Len_eq_zero.1 (by omega)

theorem heads (h : GoesOn text i rest) {b : UInt8} (hb : (bytes text)[i]? = some b) :
    Heads text i b rest := by
  obtain ⟨mid, hmid, hdrop, hstart⟩ := h
  have hhead : (mid ++ encode rest).head? = some b := by
    rw [← hdrop, List.head?_drop, hb]
  cases mid with
  | cons a mid =>
    obtain rfl : a = b := Option.some.inj hhead
    refine .inside (hmid a List.mem_cons_self) ⟨mid, ?_, ?_, ?_⟩
    · exact fun b hb => hmid b (List.mem_cons_of_mem a hb)
    · rw [← List.drop_drop, hdrop]
      rfl
    · rw [List.length_cons] at hstart
      rw [Nat.add_assoc, Nat.add_comm 1]
      exact hstart
  | nil =>
    have hat : StartsAt text i rest := hstart
    cases rest with
    | nil => cases hhead
    | cons c rest =>
      by_cases hc : c.toNat < 128
      · rw [List.nil_append, encode_of_ascii hc] at hhead
        obtain rfl : c.toUInt8 = b := Option.some.inj hhead
        exact .ascii hc (ofUInt8_toUInt8 hc) hat
      · obtain ⟨a, mid, -, hencode, -, ha⟩ := exists_encode_cons c rest
        rw [List.nil_append, hencode] at hhead
        obtain rfl : a = b := Option.some.inj hhead
        exact .high (Nat.not_lt.1 hc) (ha (Nat.not_lt.1 hc)) hat.goesOn_succ

end GoesOn

end SqlLineage.Text
