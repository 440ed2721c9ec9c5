import SqlLineage.Proofs.ByteText
import SqlLineage.Proofs.QuotedText

/-! The searches of the cutter on bytes: for the mark that ends a comment or a dollar quoted body,
for the quote that closes a literal, and for a tag. A search may stop inside a character; the bytes
there mean nothing to it, so that it finds what the cutter on characters does. -/

namespace SqlLineage.Script
open Sql Text

def firstAt? (mark : List UInt8) : List UInt8 → Option Nat
  | [] => if mark.isEmpty then some 0 else none
  | b :: bs => if mark.isPrefixOf (b :: bs) then some 0 else (firstAt? mark bs).map (· + 1)

def behind (mark bs : List UInt8) (i : Nat) : Nat :=
  match firstAt? mark (bs.drop i) with
  | some k => i + k + mark.length
  | none => bs.length

/-- The place behind the quote that closes a literal, or the end of the text. An escape is two bytes
long, whatever the second is part of, and may go past the end. -/
def closeQuote (escapes : Bool) (bs : List UInt8) (quote : Char) (i : Nat) : Nat :=
  if h : i < bs.length then
    if escapes && Char.ofUInt8 bs[i] = '\\' then closeQuote escapes bs quote (i + 2)
    else if Char.ofUInt8 bs[i] = quote then i + 1
    else closeQuote escapes bs quote (i + 1)
  else bs.length
termination_by bs.length - i

def isTagByte (b : UInt8) : Bool := isTagCharacter (Char.ofUInt8 b)

/-- The length of the tag that a dollar sign opens, given the bytes after the sign. -/
def tagLength? (bs : List UInt8) : Option Nat :=
  if bs.head?.any fun b => (Char.ofUInt8 b).isDigit then none
  else if (bs.dropWhile isTagByte).head?.map Char.ofUInt8 = some '$' then
    some ((bs.takeWhile isTagByte).length + 2)
  else none

theorem lt_closeQuote (escapes : Bool) {bs : List UInt8} (quote : Char) {i j : Nat}
    (hi : i < bs.length) (hj : i < j) : i < closeQuote escapes bs quote j := by
  fun_induction closeQuote escapes bs quote j with
  | case1 j _ _ ih => exact ih (by omega)
  | case2 => omega
  | case3 j _ _ _ ih => exact ih (by omega)
  | case4 => exact hi

theorem lt_behind {mark bs : List UInt8} {i j : Nat} (hi : i < bs.length)
    (hj : i < j + mark.length) : i < behind mark bs j := by
  unfold behind
  split <;> omega

theorem pos_of_tagLength? {bs : List UInt8} {n : Nat} (h : tagLength? bs = some n) : 0 < n := by
  unfold tagLength? at h
  obtain ⟨-, h⟩ := Option.ite_none_left_eq_some.1 h
  obtain ⟨-, h⟩ := Option.ite_none_right_eq_some.1 h
  have hn := Option.some.inj h
  omega

/-! ### Marks in bytes -/

theorem lt_of_isQuote {q : Char} (h : isQuote q = true) : q.toNat < 128 := by
  simp only [isQuote, Bool.or_eq_true, decide_eq_true_eq] at h
  rcases h with (rfl | rfl) | rfl <;> decide

section

variable {e : Bool} {mode : Mode} {mark s : List Char}

theorem isPrefixOf_encode (hmark : ∀ a ∈ mark, a.toNat < 128) (s : List Char) :
    (encode mark).isPrefixOf (encode s) = mark.isPrefixOf s := by
  induction mark generalizing s with
  | nil => rfl
  | cons a mark ih =>
    have ha := hmark a List.mem_cons_self
    have ih := ih fun a' ha' => hmark a' (List.mem_cons_of_mem a ha')
    rw [encode_of_ascii ha]
    cases s with
    | nil => rfl
    | cons c s =>
      by_cases hc : c.toNat < 128
      · have hbyte : (a.toUInt8 == c.toUInt8) = (a == c) := by
          rw [Bool.eq_iff_iff, beq_iff_eq, beq_iff_eq, toUInt8_inj ha hc]
        rw [encode_of_ascii hc, List.isPrefixOf, List.isPrefixOf, ih, hbyte]
      · obtain ⟨b, mid, -, hencode, -, hb⟩ := exists_encode_cons c s
        have hbyte : a.toUInt8 ≠ b := toUInt8_ne ha (hb (Nat.not_lt.1 hc))
        have hchar : a ≠ c := (ne_of_high (Nat.not_lt.1 hc) ha).symm
        rw [hencode, List.isPrefixOf, List.isPrefixOf, beq_false_of_ne hbyte,
          beq_false_of_ne hchar, Bool.false_and, Bool.false_and]

theorem firstAt?_append {a : Char} (ha : a.toNat < 128) {mid : List UInt8}
    (hmid : ∀ b ∈ mid, IsHigh b) (bs : List UInt8) :
    firstAt? (encode (a :: mark)) (mid ++ bs) =
      (firstAt? (encode (a :: mark)) bs).map (· + mid.length) := by
  induction mid with
  | nil => simp
  | cons b mid ih =>
    have hbyte : a.toUInt8 ≠ b := toUInt8_ne ha (hmid b List.mem_cons_self)
    have hstart : (encode (a :: mark)).isPrefixOf (b :: (mid ++ bs)) = false := by
      rw [encode_of_ascii ha, List.isPrefixOf, beq_false_of_ne hbyte, Bool.false_and]
    rw [List.cons_append, firstAt?, if_neg (Bool.eq_false_iff.1 hstart),
      ih fun b' hb' => hmid b' (List.mem_cons_of_mem b hb'), Option.map_map]
    rfl

theorem firstAt?_encode_cons (hne : mark ≠ []) (hmark : ∀ a ∈ mark, a.toNat < 128) (c : Char)
    (s : List Char) :
    firstAt? (encode mark) (encode (c :: s)) =
      if mark.isPrefixOf (c :: s) then some 0
      else (firstAt? (encode mark) (encode s)).map (· + c.utf8Size) := by
  obtain ⟨a, tail, rfl⟩ := List.exists_cons_of_ne_nil hne
  obtain ⟨b, mid, hbytes, hencode, hmid, -⟩ := exists_encode_cons c s
  have hsize : c.utf8Size = mid.length + 1 := by
    rw [← String.length_utf8EncodeChar, hbytes, List.length_cons]
  rw [← isPrefixOf_encode hmark, hencode, firstAt?,
    firstAt?_append (hmark a List.mem_cons_self) hmid, Option.map_map, hsize]
  rfl

theorem scan?_of_firstAt? (hseeks : Seeks e mode mark) (hne : mark ≠ [])
    (hmark : ∀ a ∈ mark, a.toNat < 128) {k : Nat}
    (h : firstAt? (encode mark) (encode s) = some k) :
    ∃ u v, s = u ++ v ∧ k + (encode mark).length = String.utf8Len u ∧
      scan? e v mode u = some .code := by
  induction s generalizing k with
  | nil =>
    obtain ⟨a, tail, rfl⟩ := List.exists_cons_of_ne_nil hne
    rw [encode_of_ascii (hmark a List.mem_cons_self)] at h
    cases h
  | cons c s ih =>
    rw [firstAt?_encode_cons hne hmark] at h
    split at h
    · rename_i hstart
      obtain ⟨v, hv⟩ := List.isPrefixOf_iff_prefix.1 hstart
      obtain rfl := Option.some.inj h
      exact ⟨mark, v, hv.symm, by rw [Nat.zero_add, length_encode], UpTo.here.scan? hne hseeks⟩
    · rename_i hstart
      obtain ⟨n, hn, rfl⟩ := Option.map_eq_some_iff.1 h
      obtain ⟨u, v, rfl, hlength, hscan⟩ := ih hn
      refine ⟨c :: u, v, rfl, ?_, ?_⟩
      · rw [String.utf8Len_cons, ← hlength]
        omega
      · rw [scan?_cons e (fun hcut => hseeks.1 hcut.1), hseeks.2, if_neg hstart]
        exact hscan

theorem scan?_of_firstAt?_none (hseeks : Seeks e mode mark) (hne : mark ≠ [])
    (hmark : ∀ a ∈ mark, a.toNat < 128) (h : firstAt? (encode mark) (encode s) = none) :
    scan? e [] mode s = some mode := by
  induction s with
  | nil => rfl
  | cons c s ih =>
    rw [firstAt?_encode_cons hne hmark] at h
    split at h
    · cases h
    · rename_i hstart
      rw [scan?_cons e (fun hcut => hseeks.1 hcut.1), hseeks.2, List.append_nil, if_neg hstart]
      exact ih (Option.map_eq_none_iff.1 h)

end

/-! ### The places that the cutter comes to -/

/-- From `s` in `mode` the cutter on characters can read on to byte `j`. There it is outside quotes
and comments, unless the text has ended. -/
def Leads (e : Bool) (text : String) (mode : Mode) (s : List Char) (j : Nat) : Prop :=
  ∃ u v mode', s = u ++ v ∧ GoesOn text j v ∧ scan? e v mode u = some mode' ∧
    (mode' = .code ∨ v = [])

section

variable {e : Bool} {text : String} {mode : Mode} {mark s : List Char} {i j : Nat}

theorem leads_code (h : GoesOn text j s) : Leads e text .code s j :=
  ⟨[], s, .code, rfl, h, rfl, .inl rfl⟩

theorem leads_end (e : Bool) (text : String) (mode : Mode) :
    Leads e text mode [] (bytes text).length :=
  ⟨[], [], mode, rfl, (startsAt_size text).goesOn, rfl, .inr rfl⟩

theorem Leads.append {mode' : Mode} {w : List Char} (hw : scan? e s mode w = some mode')
    (h : Leads e text mode' s j) : Leads e text mode (w ++ s) j := by
  obtain ⟨u, v, last, rfl, hv, hscan, hlast⟩ := h
  refine ⟨w ++ u, v, last, (List.append_assoc w u v).symm, hv, ?_, hlast⟩
  rw [scan?_append, hw, Option.bind_some, hscan]

theorem behind_leads (hseeks : Seeks e mode mark) (hne : mark ≠ [])
    (hmark : ∀ a ∈ mark, a.toNat < 128) (h : StartsAt text i s) :
    Leads e text mode s (behind (encode mark) (bytes text) i) := by
  unfold behind
  rw [h.drop]
  split
  · rename_i k hk
    obtain ⟨u, v, rfl, hlength, hscan⟩ := scan?_of_firstAt? hseeks hne hmark hk
    rw [Nat.add_assoc, hlength]
    exact ⟨u, v, .code, rfl, h.add.goesOn, hscan, .inl rfl⟩
  · rename_i hnone
    have hscan := scan?_of_firstAt?_none hseeks hne hmark hnone
    exact ⟨s, [], mode, (List.append_nil s).symm, (startsAt_size text).goesOn, hscan, .inr rfl⟩

theorem behind_cons {mark : List Char} (hne : mark ≠ []) (hmark : ∀ a ∈ mark, a.toNat < 128)
    {c : Char} (hc : c.toNat < 128) (hstart : ¬ mark.isPrefixOf (c :: s) = true)
    (h : StartsAt text i (c :: s)) :
    behind (encode mark) (bytes text) i = behind (encode mark) (bytes text) (i + 1) := by
  have hsize : c.utf8Size = 1 := by
    rw [← String.length_utf8EncodeChar, utf8EncodeChar_of_ascii hc]
    rfl
  unfold behind
  rw [h.drop, (h.succ hc).drop, firstAt?_encode_cons hne hmark, if_neg hstart, hsize]
  cases firstAt? (encode mark) (encode s) with
  | none => rfl
  | some k =>
    simp only [Option.map_some]
    omega

/-- An escape may end inside a character or behind the text; from there on the literal is read as
from the next character on. -/
theorem closeQuote_leads {q : Char} (hq : isQuote q = true) (h : GoesOn text i s) :
    Leads e text (.quoted q) s (closeQuote e (bytes text) q i) := by
  have hascii := lt_of_isQuote hq
  fun_induction closeQuote e (bytes text) q i generalizing s with
  | case1 i hi hescape ih =>
    rw [Bool.and_eq_true, decide_eq_true_iff] at hescape
    obtain ⟨rfl, hback⟩ := hescape
    cases h.heads (List.getElem?_eq_getElem hi) with
    | inside hb => exact absurd hback (hb.ofUInt8_ne (by decide))
    | high _ hb => exact absurd hback (hb.ofUInt8_ne (by decide))
    | @ascii c rest hc hch hat =>
      obtain rfl : c = '\\' := hch.symm.trans hback
      have hnext := hat.succ hc
      cases rest with
      | nil =>
        -- the escape goes past the end
        have hsize : i + 1 = text.utf8ByteSize := hnext.add_eq_size
        rw [closeQuote, dif_neg (by rw [length_bytes]; omega)]
        exact .append (w := ['\\']) scan?_backslash (leads_end true text _)
      | cons d rest =>
        -- it may end inside `d`, and then the rest of `d` is skipped byte by byte
        have hscan : scan? true rest (.quoted q) ['\\', d] = some (.quoted q) :=
          scan?_backslash.trans scan?_escaped
        exact .append (w := ['\\', d]) hscan (ih hnext.goesOn_succ)
  | case2 i hi _ hquote =>
    cases h.heads (List.getElem?_eq_getElem hi) with
    | inside hb => exact absurd hquote (hb.ofUInt8_ne hascii)
    | high _ hb => exact absurd hquote (hb.ofUInt8_ne hascii)
    | @ascii c rest hc hch hat =>
      obtain rfl : c = q := hch.symm.trans hquote
      exact .append (w := [c]) (scan?_close hq) (leads_code (hat.succ hc).goesOn)
  | case3 i hi hescape hquote ih =>
    rw [Bool.and_eq_true, decide_eq_true_iff] at hescape
    cases h.heads (List.getElem?_eq_getElem hi) with
    | inside _ hgo => exact ih hgo
    | @high c rest hc _ hgo =>
      have hscan : scan? e rest (.quoted q) [c] = some (.quoted q) :=
        scan?_quoted (ne_of_high hc hascii) fun _ => ne_of_high hc (by decide)
      exact .append (w := [c]) hscan (ih hgo)
    | @ascii c rest hc hch hat =>
      rw [hch] at hescape hquote
      have hscan : scan? e rest (.quoted q) [c] = some (.quoted q) :=
        scan?_quoted hquote fun he hback => hescape ⟨he, hback⟩
      exact .append (w := [c]) hscan (ih hat.goesOn_succ)
  | case4 i hi =>
    obtain rfl := h.eq_nil (Nat.not_lt.1 hi)
    exact leads_end e text _

end

/-! ### Tags -/

theorem lt_of_isTagCharacter {c : Char} (h : isTagCharacter c = true) : c.toNat < 128 := by
  obtain hword | rfl := toNat_of_isTagCharacter h
  · omega
  · decide

theorem takeWhile_isTagByte (s : List Char) :
    (encode s).takeWhile isTagByte = encode (s.takeWhile isTagCharacter) := by
  induction s with
  | nil => rfl
  | cons c s ih =>
    by_cases hc : isTagCharacter c = true
    · have hascii := lt_of_isTagCharacter hc
      have hbyte : isTagByte c.toUInt8 = true := by rwa [isTagByte, ofUInt8_toUInt8 hascii]
      rw [encode_of_ascii hascii, List.takeWhile_cons_of_pos hbyte, ih,
        List.takeWhile_cons_of_pos hc, encode_of_ascii hascii]
    · obtain ⟨b, bs, hencode, hb⟩ := exists_head_encode (fun _ => lt_of_isTagCharacter) c s
      rw [hencode, List.takeWhile_cons_of_neg (by rwa [isTagByte, hb]),
        List.takeWhile_cons_of_neg hc]
      rfl

theorem dropWhile_isTagByte (s : List Char) :
    (encode s).dropWhile isTagByte = encode (s.dropWhile isTagCharacter) := by
  have hsplit : encode (s.takeWhile isTagCharacter) ++ (encode s).dropWhile isTagByte =
      encode (s.takeWhile isTagCharacter) ++ encode (s.dropWhile isTagCharacter) := by
    rw [← encode_append, List.takeWhile_append_dropWhile, ← takeWhile_isTagByte,
      List.takeWhile_append_dropWhile]
  exact List.append_cancel_left hsplit

theorem lt_of_isDigit {c : Char} (h : c.isDigit = true) : c.toNat < 128 :=
  lt_of_isTagCharacter (by simp [isTagCharacter, Char.isAlphanum, h])

theorem tagLength?_encode (s : List Char) :
    tagLength? (encode s) = (tagAfter? s).map List.length := by
  rw [tagLength?, tagAfter?, head?_encode_any (fun _ => lt_of_isDigit), dropWhile_isTagByte,
    takeWhile_isTagByte]
  simp only [head?_encode (by decide : '$'.toNat < 128)]
  by_cases hdigit : s.head?.any Char.isDigit = true
  · rw [if_pos hdigit, if_pos hdigit]
    rfl
  rw [if_neg hdigit, if_neg hdigit]
  by_cases hdollar : (s.dropWhile isTagCharacter).head? = some '$'
  · have hword : ∀ a ∈ s.takeWhile isTagCharacter, a.toNat < 128 :=
      fun a ha => lt_of_isTagCharacter (List.all_eq_true.1 List.all_takeWhile a ha)
    rw [if_pos hdollar, if_pos hdollar, length_encode_of_ascii hword]
    simp
  · rw [if_neg hdollar, if_neg hdollar]
    rfl

end SqlLineage.Script
