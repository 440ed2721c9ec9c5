import SqlLineage.Proofs.Segment
import SqlLineage.Sql.Lexer

/-! Text up to a closing mark, as the lexer and the cutter read it. `Quoted` and `UpTo` say what
such a text is; each scanner of the lexer that looks for a closing mark reads one, and the cutter,
where it takes backslashes alike, is outside quotes and comments right after it. -/

namespace SqlLineage.Sql
open Script

/-- What follows an opening quote `q` up to the quote that closes it. A backslash is an escape
if `b`. -/
inductive Quoted (b : Bool) (q : Char) : List Char → Prop
  | close : Quoted b q [q]
  | doubled {w : List Char} : Quoted b q w → Quoted b q (q :: q :: w)
  | escape {c : Char} {w : List Char} : b = true → Quoted b q w → Quoted b q ('\\' :: c :: w)
  | char {c : Char} {w : List Char} : c ≠ q → (b = true → c ≠ '\\') → Quoted b q w →
      Quoted b q (c :: w)

/-- The text ends with `mark`, which starts nowhere before. -/
inductive UpTo (mark : List Char) : List Char → Prop
  | here : UpTo mark mark
  | later {c : Char} {w : List Char} : ¬ mark <+: c :: w → UpTo mark w → UpTo mark (c :: w)

def isQuote (c : Char) : Bool := c = '\'' || c = '"' || c = '\x60'

/-- A reader that takes a backslash as an escape if `b` and the cutter, which does so if `e`,
close `w` at the same quote. -/
def SameEscapes (e b : Bool) (q : Char) (w : List Char) : Prop := b = e ∨ ¬ ['\\', q] <:+: w

instance (e b : Bool) (q : Char) (w : List Char) : Decidable (SameEscapes e b q w) :=
  inferInstanceAs (Decidable (_ ∨ _))

variable {e b : Bool} {q : Char} {x w mark : List Char}

theorem SameEscapes.of_suffix {u : List Char} (h : SameEscapes e b q w) (hu : u <:+ w) :
    SameEscapes e b q u :=
  h.imp_right fun hnot hheld => hnot (hheld.trans hu.isInfix)

theorem SameEscapes.head_ne (h : SameEscapes e b q ('\\' :: w)) (hne : b ≠ e) :
    w.head? ≠ some q := by
  intro hhead
  obtain ⟨tail, rfl⟩ := List.head?_eq_some_iff.1 hhead
  exact h.resolve_left hne ⟨[], tail, rfl⟩

theorem Quoted.append {u : List Char} (hu : ∀ c ∈ u, c ≠ q ∧ c ≠ '\\') (h : Quoted b q w) :
    Quoted b q (u ++ w) := by
  induction u with
  | nil => exact h
  | cons c u ih =>
    obtain ⟨hq, hback⟩ := hu c List.mem_cons_self
    exact .char hq (fun _ => hback) (ih fun a ha => hu a (List.mem_cons_of_mem c ha))

theorem UpTo.suffix (h : UpTo mark w) : mark <:+ w := by
  induction h with
  | here => exact List.suffix_refl mark
  | later _ _ ih => exact ih.trans (List.suffix_cons _ _)

theorem upTo_of_first (hend : mark <:+ w) (hfirst : ∀ p, p <+: w → mark <:+ p → p = w) :
    UpTo mark w := by
  induction w with
  | nil =>
    obtain rfl := List.suffix_nil.1 hend
    exact .here
  | cons c w ih =>
    by_cases hwhole : mark = c :: w
    · exact hwhole ▸ .here
    · have hnot : ¬ mark <+: c :: w := fun h => hwhole (hfirst mark h (List.suffix_refl mark))
      have hend' : mark <:+ w := (List.suffix_cons_iff.1 hend).resolve_left hwhole
      refine .later hnot (ih hend' fun p hp hmark => ?_)
      have hcons := hfirst (c :: p) ((List.cons_prefix_cons).2 ⟨rfl, hp⟩)
        (hmark.trans (List.suffix_cons c p))
      exact (List.cons.inj hcons).2

/-! ### The cutter -/

theorem scan?_open (hq : isQuote q = true) :
    scan? e x .code (q :: w) = scan? e x (.quoted q) w := by
  have hcut : q ≠ ';' := by rintro rfl; simp [isQuote] at hq
  rw [scan?_cons e (fun h => hcut h.2), Mode.step, codeStep, if_pos (by simpa [isQuote] using hq)]

theorem scan?_close (hq : isQuote q = true) :
    scan? e x (.quoted q) (q :: w) = scan? e x .code w := by
  have hback : q ≠ '\\' := by rintro rfl; simp [isQuote] at hq
  rw [scan?_cons e (by simp), Mode.step, quotedStep, if_neg (by simp [hback]), if_pos rfl]

theorem scan?_quoted {c : Char} (hq : c ≠ q) (he : e = true → c ≠ '\\') :
    scan? e x (.quoted q) (c :: w) = scan? e x (.quoted q) w := by
  have hback : ¬ (e && c == '\\') = true := by
    intro h
    rw [Bool.and_eq_true, beq_iff_eq] at h
    exact he h.1 h.2
  rw [scan?_cons e (by simp), Mode.step, quotedStep, if_neg hback, if_neg hq]

theorem scan?_backslash : scan? true x (.quoted q) ('\\' :: w) = scan? true x (.escaped q) w := by
  rw [scan?_cons true (by simp), Mode.step, quotedStep, if_pos (by simp)]

theorem scan?_escaped {c : Char} :
    scan? e x (.escaped q) (c :: w) = scan? e x (.quoted q) w := by
  rw [scan?_cons e (by simp), Mode.step]

/-- The cutter may stand after a backslash that is no escape to the reader, but then no quote
comes next. -/
theorem Quoted.scan?_both (hq : isQuote q = true) (h : Quoted b q w) (hs : SameEscapes e b q w) :
    scan? e x (.quoted q) w = some .code ∧
      (b ≠ e → e = true → w.head? ≠ some q → scan? e x (.escaped q) w = some .code) := by
  have hback : '\\' ≠ q := by rintro rfl; simp [isQuote] at hq
  induction h with
  | close =>
    refine ⟨scan?_close hq, fun _ _ hhead => absurd rfl hhead⟩
  | @doubled w _ ih =>
    have hs' := hs.of_suffix ((List.suffix_cons q w).trans (List.suffix_cons q (q :: w)))
    refine ⟨?_, fun _ _ hhead => absurd rfl hhead⟩
    rw [scan?_close hq, scan?_open hq]
    exact (ih hs').1
  | @escape c w hb _ ih =>
    have hs' := hs.of_suffix ((List.suffix_cons c w).trans (List.suffix_cons '\\' (c :: w)))
    refine ⟨?_, fun hne he _ => absurd (hb.trans he.symm) hne⟩
    cases e with
    | true =>
      rw [scan?_backslash, scan?_escaped]
      exact (ih hs').1
    | false =>
      have hc : c ≠ q := fun hc => hs.head_ne (by simp [hb]) (by simp [hc])
      rw [scan?_quoted (e := false) hback nofun, scan?_quoted (e := false) hc nofun]
      exact (ih hs').1
  | @char c w hc hb _ ih =>
    have hs' := hs.of_suffix (List.suffix_cons c w)
    refine ⟨?_, fun _ _ _ => scan?_escaped.trans (ih hs').1⟩
    -- A backslash that only the cutter takes as an escape.
    by_cases he : e = true ∧ c = '\\'
    · obtain ⟨rfl, rfl⟩ := he
      have hne : b ≠ true := fun h => hb h rfl
      rw [scan?_backslash]
      exact (ih hs').2 hne rfl (hs.head_ne hne)
    · rw [scan?_quoted hc fun h hc => he ⟨h, hc⟩]
      exact (ih hs').1

theorem Quoted.scan? (hq : isQuote q = true) (h : Quoted b q w) (hs : SameEscapes e b q w) :
    Script.scan? e x (.quoted q) w = some .code := (h.scan?_both hq hs).1

theorem scan?_mark (c : Char) (mode : Mode) :
    scan? e x (.mark w.length mode) (c :: w) = some mode := by
  induction w generalizing c with
  | nil => rfl
  | cons c' w ih => exact (scan?_cons e (by simp) _ _).trans (ih c')

theorem scan?_after (mode : Mode) : scan? e x (.after w.length mode) w = some mode := by
  cases w with
  | nil => rfl
  | cons c w => exact scan?_mark c mode

theorem UpTo.not_prefix_append {c : Char} (h : UpTo mark w) (hnot : ¬ mark <+: c :: w) :
    ¬ mark <+: c :: (w ++ x) := by
  intro hstarts
  refine hnot (List.prefix_of_prefix_length_le hstarts (List.prefix_append (c :: w) x) ?_)
  exact Nat.le_succ_of_le h.suffix.length_le

def Seeks (e : Bool) (mode : Mode) (mark : List Char) : Prop :=
  mode ≠ .code ∧ ∀ c cs, mode.step e c cs =
    if mark.isPrefixOf (c :: cs) then .after (mark.length - 1) .code else mode

theorem seeks_dollar (tag : List Char) : Seeks e (.dollar tag) tag :=
  ⟨by simp, fun _ _ => rfl⟩

theorem seeks_blockComment : Seeks e .blockComment ['*', '/'] := by
  refine ⟨by simp, fun c cs => ?_⟩
  have hstart : ['*', '/'].isPrefixOf (c :: cs) = true ↔
      (c = '*' && cs.head? = some '/') = true := by
    cases cs <;> simp [@eq_comm _ '*', @eq_comm _ '/']
  simp only [Mode.step, hstart]
  rfl

theorem seeks_lineComment : Seeks e .lineComment ['\n'] := by
  refine ⟨by simp, fun c cs => ?_⟩
  have hstart : ['\n'].isPrefixOf (c :: cs) = true ↔ c = '\n' := by simp [@eq_comm _ '\n']
  simp only [Mode.step, hstart]
  rfl

theorem UpTo.scan? {mode : Mode} (hmark : mark ≠ []) (hseeks : Seeks e mode mark)
    (h : UpTo mark w) : Script.scan? e x mode w = some .code := by
  induction h with
  | here =>
    obtain ⟨c, tail, rfl⟩ := List.exists_cons_of_ne_nil hmark
    rw [scan?_cons e (fun h => hseeks.1 h.1), hseeks.2, if_pos (by simp)]
    exact scan?_after .code
  | later hnot hw ih =>
    have hnot' := hw.not_prefix_append (x := x) hnot
    rw [scan?_cons e (fun h => hseeks.1 h.1), hseeks.2, if_neg (by simpa using hnot')]
    exact ih

theorem scan?_lineComment (h : ∀ a ∈ w, a ≠ '\n') :
    scan? e x .lineComment w = some .lineComment := by
  induction w with
  | nil => rfl
  | cons a w ih =>
    rw [scan?_cons e (by simp), Mode.step, if_neg (h a List.mem_cons_self)]
    exact ih fun a' ha' => h a' (List.mem_cons_of_mem a ha')

theorem scan?_dashes : scan? e x .code ('-' :: '-' :: w) = scan? e x .lineComment w := by
  rw [scan?_cons e (by simp), scan?_cons e (by simp)]
  rfl

theorem tagAfter?_tag {tag : List Char} (htag : tag.all isTagCharacter = true)
    (hdigit : tag.head?.any Char.isDigit = false) :
    tagAfter? (tag ++ '$' :: x) = some ('$' :: tag ++ ['$']) := by
  have hhead : (tag ++ '$' :: x).head?.any Char.isDigit = false := by
    cases tag with
    | nil => rfl
    | cons a tag => exact hdigit
  rw [List.all_eq_true] at htag
  rw [tagAfter?, hhead, if_neg Bool.false_ne_true, List.dropWhile_append_of_pos htag,
    List.takeWhile_append_of_pos htag, if_pos (by rfl)]
  simp [isTagCharacter]

theorem scan?_tag {tag : List Char} (htag : tag.all isTagCharacter = true)
    (hdigit : tag.head?.any Char.isDigit = false) :
    scan? e x .code ('$' :: tag ++ ['$']) = some (.dollar ('$' :: tag ++ ['$'])) := by
  have hstep : codeStep '$' (tag ++ ['$'] ++ x) =
      .after (tag ++ ['$']).length (.dollar ('$' :: tag ++ ['$'])) := by
    simp [codeStep, tagAfter?_tag htag hdigit]
  rw [List.cons_append, scan?_cons e (by simp), Mode.step, hstep]
  exact scan?_after _

theorem scan?_dollarQuote (tag : List Char) (htag : tag.all isTagCharacter = true)
    (hdigit : tag.head?.any Char.isDigit = false) (hw : UpTo ('$' :: tag ++ ['$']) w) :
    scan? e x .code ('$' :: tag ++ '$' :: w) = some .code := by
  have hsplit : '$' :: tag ++ '$' :: w = ('$' :: tag ++ ['$']) ++ w := by simp
  rw [hsplit, scan?_append, scan?_tag htag hdigit, Option.bind_some]
  exact hw.scan? (by simp) (seeks_dollar _)

/-! ### The lexer -/

theorem ok_of_bind {α β : Type} {r : Except LexError α} {f : α → Except LexError β} {y : β}
    (h : (r >>= f) = .ok y) : ∃ a, r = .ok a ∧ f a = .ok y := by
  cases r with
  | error fault => cases h
  | ok a => exact ⟨a, rfl, h⟩

variable {fault : LexError} {place : Place} {cs body : List Char} {c c' : Cursor}

theorem quotedBody_quoted (h : quotedBody q b fault place cs = .ok (body, c')) :
    ∃ w, cs = w ++ c'.rest ∧ Quoted b q w := by
  fun_induction quotedBody q b fault place cs generalizing body c' with
  | case1 => cases h
  | case2 _ rest' =>
    rename_i ih
    obtain ⟨r, hr, h⟩ := ok_of_bind h
    cases h
    obtain ⟨w, rfl, hw⟩ := ih hr
    exact ⟨q :: q :: w, rfl, .doubled hw⟩
  | case3 | case4 =>
    cases h
    exact ⟨[q], rfl, .close⟩
  | case5 => cases h
  | case6 _ ch _ hq hback next rest =>
    rename_i ih
    obtain ⟨r, hr, h⟩ := ok_of_bind h
    cases h
    obtain ⟨w, rfl, hw⟩ := ih hr
    rw [Bool.and_eq_true, decide_eq_true_iff] at hback
    obtain ⟨rfl, hb⟩ := hback
    exact ⟨'\\' :: next :: w, rfl, .escape hb hw⟩
  | case7 _ ch rest _ hq hback =>
    rename_i ih
    obtain ⟨r, hr, h⟩ := ok_of_bind h
    cases h
    obtain ⟨w, rfl, hw⟩ := ih hr
    refine ⟨ch :: w, rfl, .char hq (fun hb hch => hback ?_) hw⟩
    simp [hb, hch]

theorem delimitedBody_quoted (h : delimitedBody q place cs = some (body, c')) :
    ∃ w, cs = w ++ c'.rest ∧ Quoted false q w := by
  fun_induction delimitedBody q place cs generalizing body c' with
  | case1 => cases h
  | case2 _ rest' =>
    rename_i ih
    obtain ⟨r, hr, heq⟩ := Option.map_eq_some_iff.1 h
    cases heq
    obtain ⟨w, rfl, hw⟩ := ih hr
    exact ⟨q :: q :: w, rfl, .doubled hw⟩
  | case3 | case4 =>
    cases h
    exact ⟨[q], rfl, .close⟩
  | case5 _ ch rest _ hne =>
    rename_i ih
    obtain ⟨r, hr, heq⟩ := Option.map_eq_some_iff.1 h
    cases heq
    obtain ⟨w, rfl, hw⟩ := ih hr
    exact ⟨ch :: w, rfl, .char hne nofun hw⟩

theorem tripleQuotedBody_quoted {run : Nat} (hrun : run ≤ 2) {read : List Char}
    (h : tripleQuotedBody q b fault place run read cs = .ok (body, c')) :
    ∃ w, cs = w ++ c'.rest ∧ 3 - run ≤ w.count q ∧
      (w.count q = 3 - run → Quoted b q (List.replicate run q ++ w)) := by
  fun_induction tripleQuotedBody q b fault place run read cs generalizing body c' with
  | case1 => cases h
  | case2 =>
    cases h
    exact ⟨[q], rfl, by simp, fun _ => .doubled .close⟩
  | case3 _ run read rest hne =>
    rename_i ih
    obtain ⟨w, rfl, hcount, hquoted⟩ := ih (by omega) h
    refine ⟨q :: w, rfl, by simp; omega, fun hw => ?_⟩
    have hshift : List.replicate run q ++ q :: w = List.replicate (run + 1) q ++ w := by
      simp [List.replicate_succ']
    rw [hshift]
    exact hquoted (by simp at hw; omega)
  | case4 => cases h
  | case5 _ run read ch _ hne hback next rest =>
    rename_i ih
    obtain ⟨w, rfl, hcount, hquoted⟩ := ih (by omega) h
    rw [Bool.and_eq_true, decide_eq_true_iff] at hback
    obtain ⟨rfl, hb⟩ := hback
    have hle : w.count q ≤ ('\\' :: next :: w).count q :=
      List.Sublist.count_le q ((List.sublist_cons_self _ _).trans (List.sublist_cons_self _ _))
    refine ⟨'\\' :: next :: w, rfl, by omega, fun hw => ?_⟩
    -- Three quotes are still to come, so none was read before.
    obtain rfl : run = 0 := by omega
    exact .escape hb (hquoted (by omega))
  | case6 _ run read ch rest _ hne hback =>
    rename_i ih
    obtain ⟨w, rfl, hcount, hquoted⟩ := ih (by omega) h
    have hch : (ch :: w).count q = w.count q := List.count_cons_of_ne hne
    refine ⟨ch :: w, rfl, by omega, fun hw => ?_⟩
    obtain rfl : run = 0 := by omega
    refine .char hne (fun hb hch => hback ?_) (hquoted (by omega))
    simp [hb, hch]

/-! ### Escapes by number -/

theorem Cursor.next_rest (c : Cursor) : c.next.rest = c.rest.tail := by
  unfold Cursor.next
  split <;> simp_all

theorem Cursor.skip_rest (n : Nat) (c : Cursor) : (c.skip n).rest = c.rest.drop n := by
  induction n generalizing c with
  | zero => rfl
  | succ n ih =>
    rw [Cursor.skip, ih, Cursor.next_rest, ← List.drop_one, List.drop_drop, Nat.add_comm]

theorem hexValue?_plain {ch : Char} (h : (hexValue? ch).isSome = true) :
    ch ≠ '\'' ∧ ch ≠ '\\' := by
  constructor <;> rintro rfl <;> exact absurd h (by decide)

theorem octalValue?_plain {ch : Char} (h : (octalValue? ch).isSome = true) :
    ch ≠ '\'' ∧ ch ≠ '\\' := by
  constructor <;> rintro rfl <;> exact absurd h (by decide)

theorem mem_take_leadingDigits {value? : Char → Option Nat} {n : Nat} {ch : Char}
    (h : ch ∈ cs.take (leadingDigits value? n cs).length) : (value? ch).isSome = true := by
  fun_induction leadingDigits value? n cs with
  | case1 => simp at h
  | case2 => simp at h
  | case3 n d rest v hv ih =>
    rw [List.length_cons, List.take_succ_cons, List.mem_cons] at h
    obtain rfl | h := h
    · rw [hv]
      rfl
    · exact ih h
  | case4 => simp at h

theorem hexNumber?_plain {n v : Nat} (h : hexNumber? n cs = some v) {ch : Char}
    (hch : ch ∈ cs.take n) : ch ≠ '\'' ∧ ch ≠ '\\' := by
  have hdigits : ∀ {m : Nat} {ds : List Char}, (leadingDigits hexValue? m ds).length = ds.length →
      ∀ d ∈ ds, d ≠ '\'' ∧ d ≠ '\\' := by
    intro m ds hlength d hd
    have hmem : d ∈ ds.take (leadingDigits hexValue? m ds).length := by
      rwa [hlength, List.take_length]
    exact hexValue?_plain (mem_take_leadingDigits hmem)
  unfold hexNumber? at h
  dsimp only at h
  split at h
  case isTrue hplus =>
    obtain ⟨tail, htail⟩ := List.head?_eq_some_iff.1 hplus
    rw [htail, List.tail_cons] at h
    rw [htail] at hch
    obtain ⟨hall, -⟩ := Option.ite_none_right_eq_some.1 h
    simp only [Bool.and_eq_true, decide_eq_true_eq] at hall
    obtain rfl | hmem := List.mem_cons.1 hch
    · decide
    · exact hdigits hall.2 ch hmem
  case isFalse =>
    obtain ⟨hall, -⟩ := Option.ite_none_right_eq_some.1 h
    simp only [Bool.and_eq_true, decide_eq_true_eq] at hall
    exact hdigits hall.2 ch hch

theorem escapeSequence?_read {ch : Char} {n : Nat} (h : escapeSequence? cs = some (ch, n)) :
    ∃ d rest m, cs = d :: rest ∧ n = m + 1 ∧ ∀ a ∈ rest.take m, a ≠ '\'' ∧ a ≠ '\\' := by
  unfold escapeSequence? at h
  split at h
  case h_1 => cases h
  case h_7 rest =>
    obtain ⟨a, hbind, heq⟩ := Option.map_eq_some_iff.1 h
    obtain ⟨v, hv, -⟩ := Option.bind_eq_some_iff.1 hbind
    cases heq
    exact ⟨_, rest, 4, rfl, rfl, fun a ha => hexNumber?_plain hv ha⟩
  case h_8 rest =>
    obtain ⟨a, hbind, heq⟩ := Option.map_eq_some_iff.1 h
    obtain ⟨v, hv, -⟩ := Option.bind_eq_some_iff.1 hbind
    cases heq
    exact ⟨_, rest, 8, rfl, rfl, fun a ha => hexNumber?_plain hv ha⟩
  case h_9 rest =>
    dsimp only at h
    split at h
    · cases h
      exact ⟨_, rest, 0, rfl, rfl, by simp⟩
    · obtain ⟨-, heq⟩ := Option.ite_none_left_eq_some.1 h
      cases heq
      exact ⟨_, rest, _, rfl, rfl, fun a ha => hexValue?_plain (mem_take_leadingDigits ha)⟩
  case h_10 d rest _ _ _ _ _ _ _ _ =>
    split at h
    case isTrue hd =>
      obtain ⟨v, hv⟩ := Option.isSome_iff_exists.1 hd
      obtain ⟨-, heq⟩ := Option.ite_none_left_eq_some.1 h
      cases heq
      refine ⟨d, rest, (leadingDigits octalValue? 2 rest).length, rfl, ?_, fun a ha => ?_⟩
      · rw [leadingDigits, hv]
        rfl
      · exact octalValue?_plain (mem_take_leadingDigits ha)
    case isFalse =>
      obtain ⟨-, heq⟩ := Option.ite_none_left_eq_some.1 h
      cases heq
      exact ⟨_, rest, 0, rfl, rfl, by simp⟩
  all_goals
    cases h
    exact ⟨_, _, 0, rfl, rfl, by simp⟩

theorem escapedBody_quoted {fuel : Nat} {read : List Char}
    (h : escapedBody fuel read c = some (body, c')) :
    ∃ w, c.rest = w ++ c'.rest ∧ Quoted true '\'' w := by
  fun_induction escapedBody fuel read c generalizing body c' with
  | case1 => cases h
  | case2 => cases h
  | case3 fuel read c tail hc ih =>
    obtain ⟨w, hw, hquoted⟩ := ih h
    rw [Cursor.skip_rest, hc] at hw
    exact ⟨'\'' :: '\'' :: w, by rw [hc]; exact congrArg ('\'' :: '\'' :: ·) hw, .doubled hquoted⟩
  | case4 fuel read c tail _ hc =>
    cases h
    exact ⟨['\''], by rw [Cursor.next_rest, hc]; rfl, .close⟩
  | case5 fuel read c rest hc ch n hescape ih =>
    obtain ⟨w, hw, hquoted⟩ := ih h
    obtain ⟨d, rest, m, rfl, rfl, hplain⟩ := escapeSequence?_read hescape
    rw [Cursor.skip_rest, hc, List.drop_succ_cons, List.drop_succ_cons] at hw
    refine ⟨'\\' :: d :: (rest.take m ++ w), ?_, .escape rfl (hquoted.append hplain)⟩
    rw [hc, List.cons_append, List.cons_append, List.append_assoc, ← hw, List.take_append_drop]
  | case6 => cases h
  | case7 fuel read c ch tail _ hquote hback hc ih =>
    obtain ⟨w, hw, hquoted⟩ := ih h
    rw [Cursor.next_rest, hc] at hw
    exact ⟨ch :: w, by rw [hc]; exact congrArg _ hw, .char hquote (fun _ => hback) hquoted⟩

theorem unicodeDigits_read {n value v : Nat} (h : unicodeDigits n value c = .ok (v, c')) :
    ∃ u, c.rest = u ++ c'.rest ∧ ∀ a ∈ u, a ≠ '\'' ∧ a ≠ '\\' := by
  fun_induction unicodeDigits n value c with
  | case1 =>
    cases h
    exact ⟨[], rfl, nofun⟩
  | case2 => cases h
  | case3 n value c ch hpeek d hd ih =>
    obtain ⟨u, hu, hplain⟩ := ih h
    obtain ⟨tail, htail⟩ := List.head?_eq_some_iff.1 hpeek
    rw [Cursor.next_rest, htail] at hu
    refine ⟨ch :: u, by rw [htail]; exact congrArg _ hu, ?_⟩
    intro a ha
    obtain rfl | ha := List.mem_cons.1 ha
    · exact hexValue?_plain (by rw [hd]; rfl)
    · exact hplain a ha
  | case4 => cases h

theorem unicodeEscape_read {n : Nat} {ch : Char} (h : unicodeEscape n c = .ok (ch, c')) :
    ∃ u, c.rest = u ++ c'.rest ∧ ∀ a ∈ u, a ≠ '\'' ∧ a ≠ '\\' := by
  obtain ⟨⟨v, c₁⟩, hdigits, h⟩ := ok_of_bind h
  change dite _ _ _ = _ at h
  by_cases hvalid : v.isValidChar
  · rw [dif_pos hvalid] at h
    cases h
    exact unicodeDigits_read hdigits
  · rw [dif_neg hvalid] at h
    cases h

theorem unicodeBody_quoted {fuel : Nat} {read : List Char}
    (h : unicodeBody fuel read c = .ok (body, c')) :
    ∃ w, c.rest = w ++ c'.rest ∧ Quoted false '\'' w := by
  fun_induction unicodeBody fuel read c generalizing body c' with
  | case1 => cases h
  | case2 => cases h
  | case3 fuel read c tail hc ih =>
    obtain ⟨w, hw, hquoted⟩ := ih h
    rw [Cursor.skip_rest, hc] at hw
    exact ⟨'\'' :: '\'' :: w, by rw [hc]; exact congrArg ('\'' :: '\'' :: ·) hw, .doubled hquoted⟩
  | case4 fuel read c tail _ hc =>
    cases h
    exact ⟨['\''], by rw [Cursor.next_rest, hc]; rfl, .close⟩
  | case5 fuel read c tail hc ih =>
    obtain ⟨w, hw, hquoted⟩ := ih h
    rw [Cursor.skip_rest, hc] at hw
    exact ⟨'\\' :: '\\' :: w, by rw [hc]; exact congrArg ('\\' :: '\\' :: ·) hw,
      .char (by decide) nofun (.char (by decide) nofun hquoted)⟩
  | case6 fuel read c tail hc ih =>
    obtain ⟨⟨ch, c₁⟩, hescape, h⟩ := ok_of_bind h
    obtain ⟨u, hu, hplain⟩ := unicodeEscape_read hescape
    obtain ⟨w, hw, hquoted⟩ := ih ch c₁ h
    rw [Cursor.skip_rest, hc] at hu
    refine ⟨'\\' :: '+' :: (u ++ w), ?_,
      .char (by decide) nofun (.char (by decide) nofun (hquoted.append hplain))⟩
    rw [hc, List.cons_append, List.cons_append, List.append_assoc, ← hw]
    exact congrArg ('\\' :: '+' :: ·) hu
  | case7 fuel read c tail _ _ hc ih =>
    obtain ⟨⟨ch, c₁⟩, hescape, h⟩ := ok_of_bind h
    obtain ⟨u, hu, hplain⟩ := unicodeEscape_read hescape
    obtain ⟨w, hw, hquoted⟩ := ih ch c₁ h
    rw [Cursor.next_rest, hc] at hu
    refine ⟨'\\' :: (u ++ w), ?_, .char (by decide) nofun (hquoted.append hplain)⟩
    rw [hc, List.cons_append, List.append_assoc, ← hw]
    exact congrArg ('\\' :: ·) hu
  | case8 fuel read c ch tail _ hquote _ _ _ hc ih =>
    obtain ⟨w, hw, hquoted⟩ := ih h
    rw [Cursor.next_rest, hc] at hw
    exact ⟨ch :: w, by rw [hc]; exact congrArg _ hw, .char hquote nofun hquoted⟩

/-! ### Comments and dollar quotes -/

theorem blockBody_upTo {nested : Bool} {depth : Nat}
    (h : blockBody nested depth place cs = .ok (body, c')) :
    cs = body ++ ['*', '/'] ++ c'.rest ∧ (0 < depth → ['*', '/'] <:+: body) ∧
      (depth = 0 → (nested = true → ¬ ['*', '/'] <:+: body) →
        UpTo ['*', '/'] (body ++ ['*', '/'])) := by
  fun_induction blockBody nested depth place cs generalizing body c' with
  | case1 => cases h
  | case2 =>
    cases h
    exact ⟨rfl, nofun, fun _ _ => .here⟩
  | case3 =>
    rename_i ih
    obtain ⟨⟨inner, c₁⟩, hr, h⟩ := ok_of_bind h
    cases h
    obtain ⟨rfl, -, -⟩ := ih hr
    exact ⟨rfl, fun _ => ⟨[], inner, rfl⟩, nofun⟩
  | case4 depth place rest hnested ih =>
    obtain ⟨⟨inner, c₁⟩, hr, h⟩ := ok_of_bind h
    cases h
    obtain ⟨rfl, hinner, -⟩ := ih hr
    -- The mark that ends the inner comment stands in the body of the outer one.
    have hheld : ['*', '/'] <:+: '/' :: '*' :: inner :=
      (hinner (Nat.succ_pos depth)).trans (List.suffix_append ['/', '*'] inner).isInfix
    exact ⟨rfl, fun _ => hheld, fun _ hnot => absurd hheld (hnot hnested)⟩
  | case5 depth place rest hnested ih =>
    obtain ⟨⟨inner, c₁⟩, hr, h⟩ := ok_of_bind h
    cases h
    obtain ⟨hrest, hinner, hupTo⟩ := ih hr
    refine ⟨congrArg ('/' :: ·) hrest, fun hdepth => List.infix_cons (hinner hdepth),
      fun hdepth _ => .later (by simp) (hupTo hdepth fun htrue => absurd htrue hnested)⟩
  | case6 depth place ch rest hclose hopen ih =>
    obtain ⟨⟨inner, c₁⟩, hr, h⟩ := ok_of_bind h
    cases h
    obtain ⟨hrest, hinner, hupTo⟩ := ih hr
    refine ⟨congrArg (ch :: ·) hrest, fun hdepth => List.infix_cons (hinner hdepth),
      fun hdepth hnot => .later ?_ (hupTo hdepth fun htrue hin => hnot htrue (List.infix_cons hin))⟩
    intro hstarts
    obtain ⟨hch, tail, htail⟩ := List.cons_prefix_cons.1 hstarts
    refine hclose (tail ++ c'.rest) hch.symm ?_
    exact hrest.trans (congrArg (· ++ c'.rest) htail.symm)

theorem plainDollarBody_upTo {pending : Bool}
    (h : plainDollarBody place pending cs = .ok (body, c')) :
    ∃ w, cs = w ++ c'.rest ∧ UpTo ['$', '$'] (if pending then '$' :: w else w) := by
  fun_induction plainDollarBody place pending cs generalizing body c' with
  | case1 => cases h
  | case2 =>
    cases h
    exact ⟨['$'], rfl, .here⟩
  | case3 _ ch rest _ hne =>
    rename_i ih
    obtain ⟨r, hr, h⟩ := ok_of_bind h
    cases h
    obtain ⟨w, rfl, hw⟩ := ih hr
    refine ⟨ch :: w, rfl, .later ?_ (.later ?_ hw)⟩
    · simpa using fun heq => hne heq.symm
    · simpa using fun heq => absurd heq.symm hne
  | case4 _ pending rest hpending =>
    rename_i ih
    obtain ⟨w, rfl, hw⟩ := ih h
    exact ⟨'$' :: w, rfl, (if_neg hpending).symm ▸ hw⟩
  | case5 _ pending ch rest _ hpending hne =>
    rename_i ih
    obtain ⟨r, hr, h⟩ := ok_of_bind h
    cases h
    obtain ⟨w, rfl, hw⟩ := ih hr
    refine ⟨ch :: w, rfl, (if_neg hpending).symm ▸ .later ?_ hw⟩
    simpa using fun heq => absurd heq.symm hne

theorem isPrefixOf_reverse_cons {ch : Char} {read : List Char} :
    mark.reverse.isPrefixOf (ch :: read) = true ↔ mark <:+ read.reverse ++ [ch] := by
  rw [List.isPrefixOf_iff_prefix, ← List.reverse_prefix]
  simp

theorem taggedDollarBody_first {read : List Char}
    (h : taggedDollarBody mark place read cs = .ok (body, c')) :
    ∃ w, cs = w ++ c'.rest ∧ mark <:+ read.reverse ++ w ∧
      ∀ p, p <+: w → p ≠ [] → mark <:+ read.reverse ++ p → p = w := by
  fun_induction taggedDollarBody mark place read cs generalizing body c' with
  | case1 => cases h
  | case2 _ read ch rest =>
    rename_i hend
    cases h
    refine ⟨[ch], rfl, isPrefixOf_reverse_cons.1 hend, fun p hp hne _ => ?_⟩
    obtain ⟨d, p, rfl⟩ := List.exists_cons_of_ne_nil hne
    obtain ⟨rfl, hnil⟩ := List.cons_prefix_cons.1 hp
    rw [List.prefix_nil.1 hnil]
  | case3 _ read ch rest =>
    rename_i hend ih
    obtain ⟨w, rfl, hw, hfirst⟩ := ih h
    have hread : ∀ p, (ch :: read).reverse ++ p = read.reverse ++ ch :: p := by simp
    refine ⟨ch :: w, rfl, hread w ▸ hw, fun p hp hne hsuffix => ?_⟩
    obtain ⟨d, p, rfl⟩ := List.exists_cons_of_ne_nil hne
    obtain ⟨rfl, htail⟩ := List.cons_prefix_cons.1 hp
    -- A prefix of one character is the place where this step saw no mark.
    by_cases hempty : p = []
    · subst hempty
      exact absurd (isPrefixOf_reverse_cons.2 hsuffix) hend
    · rw [hfirst p htail hempty ((hread p).symm ▸ hsuffix)]

theorem taggedDollarBody_upTo (hmark : mark ≠ [])
    (h : taggedDollarBody mark place [] cs = .ok (body, c')) :
    ∃ w, cs = w ++ c'.rest ∧ UpTo mark w := by
  obtain ⟨w, hw, hend, hfirst⟩ := taggedDollarBody_first h
  refine ⟨w, hw, upTo_of_first hend fun p hp hsuffix => ?_⟩
  by_cases hempty : p = []
  · exact absurd (List.suffix_nil.1 (hempty ▸ hsuffix)) hmark
  · exact hfirst p hp hempty hsuffix

end SqlLineage.Sql
