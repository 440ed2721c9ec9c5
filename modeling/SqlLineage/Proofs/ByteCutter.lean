import SqlLineage.Proofs.ByteScan
import SqlLineage.Proofs.ClosedText

/-! The cutter on bytes. It moves a place through the bytes of a script and takes ranges out of the
text, which is possible only between characters. The place itself may stand inside a character, but
what is taken out lies between characters all the same, and the statements are those of the cutter
on characters. -/

namespace SqlLineage.Script
open Sql Text

/-- Both ends of the range lie in the text and between characters. -/
def Sliceable (text : String) (range : Nat × Nat) : Prop :=
  range.1 ≤ range.2 ∧ range.2 ≤ text.utf8ByteSize ∧
    String.Pos.Raw.IsValid text ⟨range.1⟩ ∧ String.Pos.Raw.IsValid text ⟨range.2⟩

instance (text : String) (range : Nat × Nat) : Decidable (Sliceable text range) :=
  inferInstanceAs (Decidable (_ ∧ _ ∧ _ ∧ _))

structure Move where
  pos : Nat
  slices : List (Nat × Nat) := []

/-- The place of the cutter, where the statement there starts, and the statements before. -/
structure Cutter where
  start : Nat := 0
  pos : Nat := 0
  pieces : List String := []

namespace Cutter

def move (escapes : Bool) (bs : List UInt8) (c : Cutter) (b : UInt8) : Move :=
  let ch := Char.ofUInt8 b
  let next := bs[c.pos + 1]?.map Char.ofUInt8
  if isQuote ch then ⟨closeQuote escapes bs ch (c.pos + 1), []⟩
  else if ch = '-' && next = some '-' then
    ⟨behind (encode ['\n']) bs c.pos, [(c.pos, bs.length)]⟩
  else if ch = '/' && next = some '*' then
    ⟨behind (encode ['*', '/']) bs (c.pos + 2), [(c.pos + 2, bs.length)]⟩
  else if ch = '$' then
    match tagLength? (bs.drop (c.pos + 1)) with
    | some n =>
      ⟨behind ((bs.drop c.pos).take n) bs (c.pos + n),
        [(c.pos, bs.length), (c.pos, c.pos + n), (c.pos + n, bs.length)]⟩
    | none => ⟨c.pos + 1, [(c.pos, bs.length)]⟩
  else if ch = ';' then ⟨c.pos + 1, [(c.start, c.pos)]⟩
  else ⟨c.pos + 1, []⟩

def piecesTo (sql : String) (c : Cutter) (stop : Nat) : List String :=
  c.pieces ++ (piece? (String.Pos.Raw.extract sql ⟨c.start⟩ ⟨stop⟩).toList).toList

/-- One step; nothing if there is no byte, or if it takes out a range that is not sliceable. -/
def step? (escapes : Bool) (sql : String) (c : Cutter) : Option Cutter :=
  (bytes sql)[c.pos]?.bind fun b =>
    let m := c.move escapes (bytes sql) b
    if ∀ r ∈ m.slices, Sliceable sql r then
      some (if Char.ofUInt8 b = ';' then ⟨m.pos, m.pos, c.piecesTo sql c.pos⟩
        else { c with pos := m.pos })
    else none

/-! ### Every step goes forward -/

theorem lt_move_pos (escapes : Bool) {bs : List UInt8} (c : Cutter) (b : UInt8)
    (h : c.pos < bs.length) : c.pos < (c.move escapes bs b).pos := by
  have hnewline : (encode ['\n']).length = 1 := rfl
  simp only [move]
  split
  · exact lt_closeQuote escapes _ h (Nat.lt_succ_self _)
  split
  · exact lt_behind h (by omega)
  split
  · exact lt_behind h (by omega)
  split
  · split
    · rename_i n hn
      have hpos := pos_of_tagLength? hn
      exact lt_behind h (by omega)
    · exact Nat.lt_succ_self _
  split <;> exact Nat.lt_succ_self _

theorem pos_lt_of_step? {escapes : Bool} {sql : String} {c c' : Cutter}
    (h : c.step? escapes sql = some c') : c.pos < c'.pos := by
  obtain ⟨b, hb, h⟩ := Option.bind_eq_some_iff.1 h
  obtain ⟨hlt, -⟩ := List.getElem?_eq_some_iff.1 hb
  have hforward := lt_move_pos escapes c b hlt
  obtain ⟨-, h⟩ := Option.ite_none_right_eq_some.1 h
  obtain rfl := Option.some.inj h
  split <;> exact hforward

def run? (escapes : Bool) (sql : String) (c : Cutter) : Option (List String) :=
  if c.pos < sql.utf8ByteSize then
    match _hstep : c.step? escapes sql with
    | some c' => run? escapes sql c'
    | none => none
  else if Sliceable sql (c.start, sql.utf8ByteSize) then
    some (c.piecesTo sql sql.utf8ByteSize)
  else none
termination_by sql.utf8ByteSize - c.pos
decreasing_by
  have hforward := pos_lt_of_step? _hstep
  omega

/-- The cutter comes by `c` on its way through the text. -/
inductive Reached (escapes : Bool) (sql : String) : Cutter → Prop
  | start : Reached escapes sql {}
  | step {c c' : Cutter} : Reached escapes sql c → c.step? escapes sql = some c' →
      Reached escapes sql c'

end Cutter

/-! ### One step -/

section

variable {e : Bool} {text : String} {s : List Char} {i : Nat}

theorem sliceable_add {w : List Char} (h : StartsAt text i (w ++ s)) :
    Sliceable text (i, i + String.utf8Len w) := by
  have hsize := h.add.add_eq_size
  exact ⟨Nat.le_add_right _ _, by omega, h.isValid, h.add.isValid⟩

theorem sliceable_end (h : StartsAt text i s) : Sliceable text (i, (bytes text).length) := by
  have hwhole : StartsAt text i (s ++ []) := by rwa [List.append_nil]
  rw [length_bytes, ← h.add_eq_size]
  exact sliceable_add hwhole

theorem getElem?_succ {c d : Char} (hc : c.toNat < 128) (hd : d.toNat < 128)
    (h : StartsAt text i (c :: s)) :
    (bytes text)[i + 1]?.map Char.ofUInt8 = some d ↔ s.head? = some d := by
  rw [← List.head?_drop, (h.succ hc).drop, head?_encode hd]

/-- The move keeps to what the cutter on characters makes of `s`, and takes out what can be. -/
def Move.Right (e : Bool) (text : String) (s : List Char) (m : Move) : Prop :=
  Leads e text .code s m.pos ∧ ∀ r ∈ m.slices, Sliceable text r

theorem plain_leads {c : Char} (hcode : codeStep c s = .code) (hcut : c ≠ ';')
    (h : GoesOn text i s) : Leads e text .code (c :: s) i := by
  have hscan : scan? e s .code [c] = some .code := by
    rw [scan?_cons e (fun hboth => hcut hboth.2), Mode.step, List.nil_append, hcode]
    rfl
  exact .append (w := [c]) hscan (leads_code h)

theorem lineComment_right (h : StartsAt text i ('-' :: '-' :: s)) :
    Move.Right e text ('-' :: '-' :: s)
      ⟨behind (encode ['\n']) (bytes text) i, [(i, (bytes text).length)]⟩ := by
  have hfirst := h.succ (by decide)
  have hsecond := hfirst.succ (by decide)
  have hbehind : behind (encode ['\n']) (bytes text) i =
      behind (encode ['\n']) (bytes text) (i + 1 + 1) := by
    rw [behind_cons (by simp) (by simp) (by decide) (by simp) h,
      behind_cons (by simp) (by simp) (by decide) (by simp) hfirst]
  have hleads := behind_leads (e := e) seeks_lineComment (by simp) (by simp) hsecond
  refine ⟨?_, List.forall_mem_singleton.2 (sliceable_end h)⟩
  rw [hbehind]
  exact .append (w := ['-', '-']) Opening.dashes.scan? hleads

theorem blockComment_right (h : StartsAt text i ('/' :: '*' :: s)) :
    Move.Right e text ('/' :: '*' :: s)
      ⟨behind (encode ['*', '/']) (bytes text) (i + 2), [(i + 2, (bytes text).length)]⟩ := by
  have hbody : StartsAt text (i + 2) s := (h.succ (by decide)).succ (by decide)
  have hleads := behind_leads (e := e) seeks_blockComment (by simp) (by simp) hbody
  refine ⟨?_, List.forall_mem_singleton.2 (sliceable_end hbody)⟩
  exact .append (w := ['/', '*']) Opening.slashStar.scan? hleads

theorem IsTagWord.lt_of_mem {word : List Char} (h : IsTagWord word) :
    ∀ a ∈ '$' :: word ++ ['$'], a.toNat < 128 := by
  intro a ha
  simp only [List.cons_append, List.mem_cons, List.mem_append, List.not_mem_nil, or_false] at ha
  rcases ha with rfl | ha | rfl
  · decide
  · exact lt_of_isTagCharacter (List.all_eq_true.1 h.1 a ha)
  · decide

theorem tag_right {word tag : List Char} (hword : IsTagWord word)
    (htag : tag = '$' :: word ++ ['$']) (h : StartsAt text i (tag ++ s)) :
    Move.Right e text (tag ++ s)
      ⟨behind (((bytes text).drop i).take tag.length) (bytes text) (i + tag.length),
        [(i, (bytes text).length), (i, i + tag.length),
          (i + tag.length, (bytes text).length)]⟩ := by
  have hascii : ∀ a ∈ tag, a.toNat < 128 := htag ▸ hword.lt_of_mem
  have hlength : String.utf8Len tag = tag.length := by
    rw [← length_encode, length_encode_of_ascii hascii]
  have htake : ((bytes text).drop i).take tag.length = encode tag := by
    rw [h.drop, encode_append, ← hlength, ← length_encode, List.take_left]
  have hbody : StartsAt text (i + tag.length) s := by
    rw [← hlength]
    exact h.add
  have hscan : scan? e s .code tag = some (.dollar tag) := by
    rw [htag]
    exact (Opening.tag hword).scan?
  have hleads := behind_leads (e := e) (seeks_dollar tag) (by simp [htag]) hascii hbody
  have hslice := sliceable_add h
  rw [hlength] at hslice
  refine ⟨?_, ?_⟩
  · rw [htake]
    exact .append hscan hleads
  · simp only [List.forall_mem_cons, List.not_mem_nil, false_implies, implies_true, and_true]
    exact ⟨sliceable_end h, hslice, sliceable_end hbody⟩

theorem move_of_high (c : Cutter) {b : UInt8} (hb : IsHigh b) (bs : List UInt8) :
    c.move e bs b = ⟨c.pos + 1, []⟩ := by
  have hne : ∀ d : Char, d.toNat < 128 → Char.ofUInt8 b ≠ d := fun _ => hb.ofUInt8_ne
  have hquote : ¬ isQuote (Char.ofUInt8 b) = true := fun h => hne _ (lt_of_isQuote h) rfl
  simp [Cutter.move, hquote, hne]

theorem codeStep_of_high {c : Char} (hc : 128 ≤ c.toNat) (s : List Char) :
    codeStep c s = .code := by
  have hne : ∀ d : Char, d.toNat < 128 → c ≠ d := fun _ => ne_of_high hc
  simp [codeStep, hne]

theorem move_ascii (c : Cutter) {b : UInt8} {ch : Char} (hch : Char.ofUInt8 b = ch)
    (hc : ch.toNat < 128) (hcut : ch ≠ ';') (h : StartsAt text c.pos (ch :: s)) :
    (c.move e (bytes text) b).Right e text (ch :: s) := by
  have hdash := getElem?_succ hc (by decide : '-'.toNat < 128) h
  have hstar := getElem?_succ hc (by decide : '*'.toNat < 128) h
  have hnext := h.succ hc
  simp only [Cutter.move, hch, hdash, hstar]
  split
  · rename_i hq
    exact ⟨.append (w := [ch]) (Opening.quote hq).scan? (closeQuote_leads hq hnext.goesOn),
      List.forall_mem_nil _⟩
  rename_i hq
  split
  · rename_i hboth
    simp only [Bool.and_eq_true, decide_eq_true_eq] at hboth
    obtain ⟨rfl, hhead⟩ := hboth
    obtain ⟨rest, rfl⟩ := List.head?_eq_some_iff.1 hhead
    exact lineComment_right h
  rename_i hdashes
  split
  · rename_i hboth
    simp only [Bool.and_eq_true, decide_eq_true_eq] at hboth
    obtain ⟨rfl, hhead⟩ := hboth
    obtain ⟨rest, rfl⟩ := List.head?_eq_some_iff.1 hhead
    exact blockComment_right h
  rename_i hslashStar
  split
  · rename_i hdollar
    subst hdollar
    rw [hnext.drop, tagLength?_encode]
    cases htag : tagAfter? s with
    | none =>
      have hcode : codeStep '$' s = .code := by simp [codeStep, htag]
      exact ⟨plain_leads hcode hcut hnext.goesOn, List.forall_mem_singleton.2 (sliceable_end h)⟩
    | some tag =>
      obtain ⟨word, rest, hword, heq, rfl⟩ := tagAfter?_eq_some htag
      have hwhole : '$' :: (word ++ '$' :: rest) = tag ++ rest := by simp [heq]
      rw [hwhole] at h ⊢
      exact tag_right hword heq h
  · rename_i hdollar
    have hcode : codeStep ch s = .code := by
      rw [codeStep, if_neg (by simpa [isQuote] using hq), if_neg hdashes, if_neg hslashStar,
        if_neg hdollar]
    exact ⟨plain_leads hcode hcut hnext.goesOn, List.forall_mem_nil _⟩

theorem move_right (c : Cutter) {b : UInt8} (hb : (bytes text)[c.pos]? = some b)
    (hcut : Char.ofUInt8 b ≠ ';') (h : GoesOn text c.pos s) :
    (c.move e (bytes text) b).Right e text s := by
  cases h.heads hb with
  | inside hhigh hgo =>
    rw [move_of_high c hhigh]
    exact ⟨leads_code hgo, List.forall_mem_nil _⟩
  | @high ch rest hch hhigh hgo =>
    have hne : ch ≠ ';' := ne_of_high hch (by decide)
    rw [move_of_high c hhigh]
    exact ⟨plain_leads (codeStep_of_high hch rest) hne hgo, List.forall_mem_nil _⟩
  | @ascii ch rest hc hch hat => exact move_ascii c hch hc (hch ▸ hcut) hat

end

namespace Cutter

variable {escapes : Bool} {sql : String} {c : Cutter}

/-- From the start of the statement there come `q`, which is read, and `s`, from the place of the
cutter on. The cutter on characters finds the pieces of the two behind those found so far. -/
def Inv (escapes : Bool) (sql : String) (c : Cutter) : Prop :=
  ∃ q s, StartsAt sql c.start (q ++ s) ∧ GoesOn sql c.pos s ∧
    c.pieces ++ (prependFirst q (segments escapes .code s)).filterMap piece? = split escapes sql

theorem inv_start (escapes : Bool) (sql : String) : Inv escapes sql {} := by
  refine ⟨[], sql.toList, startsAt_zero sql, (startsAt_zero sql).goesOn, ?_⟩
  rw [prependFirst_nil (segments_ne_nil escapes .code sql.toList)]
  rfl

theorem Inv.le_size (h : c.Inv escapes sql) : c.pos ≤ sql.utf8ByteSize := by
  obtain ⟨q, s, -, hgo, -⟩ := h
  exact hgo.le_size

theorem Inv.sliceable_end (h : c.Inv escapes sql) :
    Sliceable sql (c.start, sql.utf8ByteSize) := by
  obtain ⟨q, s, hstart, -, -⟩ := h
  exact Script.sliceable_end hstart

theorem Inv.goto (h : c.Inv escapes sql) {j : Nat}
    (hleads : ∀ s, GoesOn sql c.pos s → Leads escapes sql .code s j) :
    Inv escapes sql { c with pos := j } := by
  obtain ⟨q, s, hstart, hgo, hpieces⟩ := h
  obtain ⟨u, v, mode, rfl, hv, hscan, hmode⟩ := hleads s hgo
  have hsegments : segments escapes mode v = segments escapes .code v := by
    rcases hmode with rfl | rfl <;> rfl
  refine ⟨q ++ u, v, by rwa [List.append_assoc], hv, ?_⟩
  rw [segments_of_scan? escapes hscan, hsegments,
    prependFirst_prependFirst] at hpieces
  exact hpieces

theorem pieces_cons (part : List Char) (parts : List (List Char)) :
    (part :: parts).filterMap piece? = (piece? part).toList ++ parts.filterMap piece? := by
  rw [List.filterMap_cons]
  cases piece? part <;> rfl

theorem piecesTo_eq {q rest : List Char} (h : StartsAt sql c.start (q ++ rest)) :
    c.piecesTo sql (c.start + String.utf8Len q) = c.pieces ++ (piece? q).toList := by
  rw [piecesTo, h.extract, String.toList_ofList]

theorem Inv.cut (h : c.Inv escapes sql) {b : UInt8} (hb : (bytes sql)[c.pos]? = some b)
    (hcut : Char.ofUInt8 b = ';') :
    Sliceable sql (c.start, c.pos) ∧
      Inv escapes sql ⟨c.pos + 1, c.pos + 1, c.piecesTo sql c.pos⟩ := by
  obtain ⟨q, s, hstart, hgo, hpieces⟩ := h
  cases hgo.heads hb with
  | inside hhigh => exact absurd hcut (hhigh.ofUInt8_ne (by decide))
  | high _ hhigh => exact absurd hcut (hhigh.ofUInt8_ne (by decide))
  | @ascii ch v hc hch hat =>
    obtain rfl : ch = ';' := hch.symm.trans hcut
    have hpos : c.pos = c.start + String.utf8Len q := by
      have hsize := hat.add_eq_size
      have hsize' := hstart.add.add_eq_size
      omega
    have hnext := hat.succ hc
    refine ⟨by rw [hpos]; exact sliceable_add hstart, [], v, hnext, hnext.goesOn, ?_⟩
    have hsegments : segments escapes .code (';' :: v) = [] :: segments escapes .code v := by
      simp [segments]
    rw [hsegments, prependFirst, List.append_nil, pieces_cons, ← List.append_assoc] at hpieces
    rw [prependFirst_nil (segments_ne_nil escapes .code v), hpos, piecesTo_eq hstart]
    exact hpieces

theorem move_semicolon (c : Cutter) {b : UInt8} (hcut : Char.ofUInt8 b = ';') (bs : List UInt8) :
    c.move escapes bs b = ⟨c.pos + 1, [(c.start, c.pos)]⟩ := by
  simp [move, hcut, isQuote]

theorem Inv.sliceable_move (h : c.Inv escapes sql) {b : UInt8}
    (hb : (bytes sql)[c.pos]? = some b) :
    ∀ r ∈ (c.move escapes (bytes sql) b).slices, Sliceable sql r := by
  by_cases hcut : Char.ofUInt8 b = ';'
  · rw [move_semicolon c hcut]
    exact List.forall_mem_singleton.2 (h.cut hb hcut).1
  · obtain ⟨q, s, -, hgo, -⟩ := h
    exact (move_right c hb hcut hgo).2

theorem Inv.step (h : c.Inv escapes sql) (hlt : c.pos < sql.utf8ByteSize) :
    ∃ c', c.step? escapes sql = some c' ∧ c'.Inv escapes sql := by
  obtain ⟨b, hb⟩ : ∃ b, (bytes sql)[c.pos]? = some b := ⟨_, List.getElem?_eq_getElem hlt⟩
  simp only [step?, hb, Option.bind_some, if_pos (h.sliceable_move hb)]
  refine ⟨_, rfl, ?_⟩
  by_cases hcut : Char.ofUInt8 b = ';'
  · rw [if_pos hcut, move_semicolon c hcut]
    exact (h.cut hb hcut).2
  · rw [if_neg hcut]
    exact h.goto fun s hgo => (move_right c hb hcut hgo).1

theorem Inv.finish (h : c.Inv escapes sql) (hend : sql.utf8ByteSize ≤ c.pos) :
    c.piecesTo sql sql.utf8ByteSize = split escapes sql := by
  obtain ⟨q, s, hstart, hgo, hpieces⟩ := h
  obtain rfl := hgo.eq_nil hend
  have hsize := hstart.add.add_eq_size
  rw [String.utf8Len_nil, Nat.add_zero] at hsize
  rw [← hsize, piecesTo_eq hstart, ← hpieces, segments, prependFirst, List.append_nil, pieces_cons,
    List.filterMap_nil, List.append_nil]

theorem Inv.run? (h : c.Inv escapes sql) : c.run? escapes sql = some (split escapes sql) := by
  fun_induction Cutter.run? escapes sql c with
  | case1 c hlt c' hstep ih =>
    obtain ⟨next, hnext, hinv⟩ := h.step hlt
    rw [hstep] at hnext
    obtain rfl := Option.some.inj hnext
    exact ih hinv
  | case2 c hlt hstep =>
    obtain ⟨next, hnext, -⟩ := h.step hlt
    rw [hstep] at hnext
    cases hnext
  | case3 c hend => rw [h.finish (Nat.not_lt.1 hend)]
  | case4 c _ hslice => exact absurd h.sliceable_end hslice

theorem Reached.inv (h : Reached escapes sql c) : c.Inv escapes sql := by
  induction h with
  | start => exact inv_start escapes sql
  | @step c c' _ hstep ih =>
    obtain ⟨b, hb, -⟩ := Option.bind_eq_some_iff.1 hstep
    obtain ⟨hlt, -⟩ := List.getElem?_eq_some_iff.1 hb
    obtain ⟨next, hnext, hinv⟩ := ih.step hlt
    rw [hstep] at hnext
    obtain rfl := Option.some.inj hnext
    exact hinv

/-- On every text the cutter comes to the end, with the statements of `split`. Wherever it is on
the way, it goes forward, stays within the text, and takes out ranges between characters only. -/
theorem run?_eq_some_split (escapes : Bool) (sql : String) :
    run? escapes sql {} = some (split escapes sql) ∧
      ∀ c, Reached escapes sql c →
        c.pos ≤ sql.utf8ByteSize ∧ Sliceable sql (c.start, sql.utf8ByteSize) ∧
        (∀ b, (bytes sql)[c.pos]? = some b →
          ∀ r ∈ (c.move escapes (bytes sql) b).slices, Sliceable sql r) ∧
        (c.pos < sql.utf8ByteSize →
          ∃ c', c.step? escapes sql = some c' ∧ c.pos < c'.pos) := by
  refine ⟨(inv_start escapes sql).run?, fun c hc => ?_⟩
  have hinv := hc.inv
  refine ⟨hinv.le_size, hinv.sliceable_end, fun b hb => hinv.sliceable_move hb, fun hlt => ?_⟩
  obtain ⟨c', hstep, -⟩ := hinv.step hlt
  exact ⟨c', hstep, pos_lt_of_step? hstep⟩

-- an escape that ends inside a character, and one that goes past the end
example : run? true "'\\é;' ; '\\" {} = some ["'\\é;'", "'\\"] := by decide +kernel

end Cutter

end SqlLineage.Script
