import Mathlib.Data.List.DropRight
import SqlLineage.Json.Reader
import SqlLineage.Json.Writer

/-! Reading JSON text gives back the value that was written. Each reader is followed through the
text that the writer makes, with any text behind it that cannot belong to the value. -/

namespace SqlLineage.Json

/-! ### Strings -/

theorem hexFour?_control : ∀ n < 32,
    hexFour? '0' '0' (hexDigit (n / 16)) (hexDigit (n % 16)) = some n := by decide

theorem stringBody?_of_plain {c : Char} (hquote : c ≠ '"') (hbackslash : c ≠ '\\')
    (hcontrol : ¬ c.toNat < 32) (rest : List Char) :
    stringBody? (c :: rest) = (stringBody? rest).map fun p => (c :: p.1, p.2) := by
  rw [stringBody?.eq_def]
  split
  · simp_all
  · simp_all
  · simp_all
  · rename_i c' rest' _ _ _ heq
    obtain ⟨rfl, rfl⟩ := List.cons.inj heq
    simp only [hcontrol, if_false]
    cases stringBody? rest <;> rfl
  · simp_all

theorem stringBody?_short {letter c : Char} (hletter : letter ≠ 'u')
    (h : escaped? letter = some c) (rest : List Char) :
    stringBody? ('\\' :: letter :: rest) = (stringBody? rest).map fun p => (c :: p.1, p.2) := by
  rw [stringBody?.eq_def]
  split
  · simp_all
  · simp_all
  · rename_i letter' rest' _ heq
    obtain ⟨-, heq⟩ := List.cons.inj heq
    obtain ⟨rfl, rfl⟩ := List.cons.inj heq
    simp only [h]
    cases stringBody? rest <;> rfl
  · rename_i c' rest' _ hshort heq
    obtain ⟨rfl, rfl⟩ := List.cons.inj heq
    exact absurd rfl (hshort letter rest rfl)
  · simp_all

theorem stringBody?_control {n : Nat} (hn : n < 32) (rest : List Char) :
    stringBody? ('\\' :: 'u' :: '0' :: '0' :: hexDigit (n / 16) :: hexDigit (n % 16) :: rest) =
      (stringBody? rest).map fun p => (Char.ofNat n :: p.1, p.2) := by
  have hlow : isLowSurrogate n = false := by simp [isLowSurrogate]; omega
  have hhigh : isHighSurrogate n = false := by simp [isHighSurrogate]; omega
  rw [stringBody?]
  simp only [hexFour?_control n hn, Option.bind_eq_bind, Option.bind_some, hlow, hhigh,
    Bool.false_eq_true, if_false]
  cases stringBody? rest <;> rfl

theorem stringBody?_escapeChar (c : Char) (rest : List Char) :
    stringBody? (escapeChar c ++ rest) = (stringBody? rest).map fun p => (c :: p.1, p.2) := by
  unfold escapeChar
  split_ifs with hquote hbackslash hnewline hreturn htab hbackspace hfeed hcontrol
  · exact stringBody?_short (by decide) (by rw [hquote]; rfl) rest
  · exact stringBody?_short (by decide) (by rw [hbackslash]; rfl) rest
  · exact stringBody?_short (by decide) (by rw [hnewline]; rfl) rest
  · exact stringBody?_short (by decide) (by rw [hreturn]; rfl) rest
  · exact stringBody?_short (by decide) (by rw [htab]; rfl) rest
  · exact stringBody?_short (by decide) (by rw [hbackspace]; rfl) rest
  · exact stringBody?_short (by decide) (by rw [hfeed]; rfl) rest
  · have h := stringBody?_control hcontrol rest
    rwa [Char.ofNat_toNat] at h
  · exact stringBody?_of_plain hquote hbackslash hcontrol rest

theorem stringBody?_escaped (cs rest : List Char) :
    stringBody? (cs.flatMap escapeChar ++ '"' :: rest) = some (cs, rest) := by
  induction cs with
  | nil => rw [List.flatMap_nil, List.nil_append, stringBody?]
  | cons c cs ih =>
    rw [List.flatMap_cons, List.append_assoc, stringBody?_escapeChar, ih]
    rfl

/-! ### Numbers -/

def EndsNumber (rest : List Char) : Prop :=
  ∀ c ∈ rest.head?, c.isDigit = false ∧ c ≠ '.' ∧ c ≠ 'e' ∧ c ≠ 'E'

theorem isDigit_of_mem_natText {n : Nat} {c : Char} (h : c ∈ natText n) : c.isDigit = true :=
  Nat.isDigit_of_mem_toDigits (by decide) (by decide) h

theorem natText_ne_nil (n : Nat) : natText n ≠ [] := Nat.toDigits_ne_nil

theorem natText_head_ne_zero {n : Nat} (hn : 0 < n) : (natText n).head? ≠ some '0' := by
  induction n using Nat.strongRecOn with
  | _ n ih =>
    rw [natText]
    by_cases hsmall : n < 10
    · rw [Nat.toDigits_of_lt_base hsmall]
      have hdigit : ∀ m < 10, 0 < m → m.digitChar ≠ '0' := by decide
      simpa using hdigit n hsmall hn
    · rw [Nat.toDigits_of_base_le (by decide) (by omega),
        List.head?_append_of_ne_nil _ Nat.toDigits_ne_nil]
      exact ih (n / 10) (by omega) (by omega)

theorem natText_zero : natText 0 = ['0'] := Nat.toDigits_zero 10

theorem natText_plain (n : Nat) :
    ((natText n).length > 1 && (natText n).head? = some '0') = false := by
  rcases Nat.eq_zero_or_pos n with rfl | hn
  · rw [natText_zero]
    rfl
  · simp [natText_head_ne_zero hn]

theorem le_ofDigitChars (start : Nat) (digits : List Char) :
    start ≤ Nat.ofDigitChars 10 digits start := by
  induction digits generalizing start with
  | nil => exact Nat.le_refl start
  | cons c digits ih =>
    rw [Nat.ofDigitChars_cons]
    exact Nat.le_trans (by omega) (ih _)

theorem significand_eq {start : Nat} {digits : List Char}
    (h : Nat.ofDigitChars 10 digits start ≤ wholeLimit) :
    significand start digits = (Nat.ofDigitChars 10 digits start, 0) := by
  induction digits generalizing start with
  | nil => rfl
  | cons c digits ih =>
    rw [Nat.ofDigitChars_cons] at h ⊢
    have hfits := Nat.le_trans (le_ofDigitChars _ _) h
    rw [significand, if_neg (Nat.not_lt.2 hfits), ih h]

theorem significand_natText {n : Nat} (h : n ≤ wholeLimit) :
    significand 0 (natText n) = (n, 0) := by
  have hvalue : Nat.ofDigitChars 10 (natText n) 0 = n := Nat.ofDigitChars_ten_toDigits
  rw [significand_eq (hvalue.symm ▸ h), hvalue]

theorem digits?_natText (n : Nat) {rest : List Char} (hrest : EndsNumber rest) :
    digits? (natText n ++ rest) = some (natText n, rest) := by
  have htake : rest.takeWhile Char.isDigit = [] ∧ rest.dropWhile Char.isDigit = rest := by
    cases rest with
    | nil => exact ⟨rfl, rfl⟩
    | cons c rest =>
      have hc := (hrest c rfl).1
      simp [hc]
  have hdigits : ∀ c ∈ natText n, c.isDigit = true := fun c hc => isDigit_of_mem_natText hc
  rw [digits?, List.takeWhile_append_of_pos hdigits, List.dropWhile_append_of_pos hdigits, htake.1,
    htake.2, List.append_nil]
  split
  · exact absurd ‹_› (natText_ne_nil n)
  · rfl

def IsWhole (i : Int) : Prop := -9223372036854775808 ≤ i ∧ i ≤ wholeLimit

theorem number?_natText (negative : Bool) (n : Nat) {rest : List Char} (hrest : EndsNumber rest) :
    number? negative (natText n ++ rest) =
      (whole? negative (natText n)).map fun j => (j, rest) := by
  rw [number?, digits?_natText n hrest]
  simp only [Option.bind_eq_bind, Option.bind_some, natText_plain]
  cases rest with
  | nil => cases whole? negative (natText n) <;> rfl
  | cons c rest =>
    obtain ⟨-, hpoint, hlower, hupper⟩ := hrest c rfl
    simp only [Bool.false_eq_true, if_false]
    split
    · exact absurd (List.cons.inj ‹_›).1 hpoint
    · simp only [hlower, hupper, decide_false, Bool.or_self, Bool.false_eq_true, if_false]
      cases whole? negative (natText n) <;> rfl

/-! ### Values -/

/-- Every number is whole and none is out of range. -/
inductive Readable : Json → Prop
  | null : Readable null
  | bool (b : Bool) : Readable (bool b)
  | integer {i : Int} : IsWhole i → Readable (integer i)
  | string (s : String) : Readable (string s)
  | array {items : List Json} : (∀ j ∈ items, Readable j) → Readable (array items)
  | object {members : List (String × Json)} :
    (∀ m ∈ members, Readable m.2) → Readable (object members)

theorem whole?_natText {n : Nat} (h : n ≤ wholeLimit) :
    whole? false (natText n) = some (integer n) := by
  rw [whole?, significand_natText h]
  rfl

theorem whole?_negative {n : Nat} (hpos : 0 < n) (h : n ≤ 9223372036854775808) :
    whole? true (natText n) = some (integer (-(n : Int))) := by
  have hlimit : n ≤ wholeLimit := Nat.le_trans h (by decide)
  rw [whole?, significand_natText hlimit]
  have hzero : (n == 0 || 9223372036854775808 < n) = false := by
    simp only [Bool.or_eq_false_iff, beq_eq_false_iff_ne, decide_eq_false_iff_not]
    omega
  simp [hzero]

theorem skipBlanks_of_not_blank {c : Char} (h : isJsonBlank c = false) (rest : List Char) :
    skipBlanks (c :: rest) = c :: rest := by
  rw [skipBlanks, List.dropWhile_cons_of_neg (by simp [h])]

theorem skipBlanks_newLine (level : Nat) (rest : List Char) :
    skipBlanks (newLine level ++ rest) = skipBlanks rest := by
  have hblank : ∀ c ∈ newLine level, isJsonBlank c = true := by
    intro c hc
    rcases List.mem_cons.1 hc with rfl | hc
    · rfl
    · rw [(List.mem_replicate.1 hc).2]
      rfl
  rw [skipBlanks, List.dropWhile_append_of_pos hblank, skipBlanks]

/-- `text`, with anything behind it that ends a number, is read as `j` with this much fuel. -/
def ReadsAs (text : List Char) (j : Json) : Prop :=
  ∀ (fuel : Nat) (rest : List Char), text.length ≤ fuel → EndsNumber rest →
    value? fuel (text ++ rest) = some (j, rest)

theorem skipBlanks_skipBlanks (cs : List Char) : skipBlanks (skipBlanks cs) = skipBlanks cs :=
  List.dropWhile_idempotent _ _

theorem value?_skipBlanks (fuel : Nat) (cs : List Char) :
    value? fuel (skipBlanks cs) = value? fuel cs := by
  cases fuel with
  | zero => rw [value?, value?]
  | succ fuel => rw [value?, value?, skipBlanks_skipBlanks]

theorem value?_newLine (fuel level : Nat) (cs : List Char) :
    value? fuel (newLine level ++ cs) = value? fuel cs := by
  rw [← value?_skipBlanks, skipBlanks_newLine, value?_skipBlanks]

theorem items?_skipBlanks (fuel : Nat) (cs : List Char) :
    items? fuel (skipBlanks cs) = items? fuel cs := by
  cases fuel with
  | zero => rw [items?, items?]
  | succ fuel => rw [items?, items?, value?_skipBlanks]

theorem members?_skipBlanks (fuel : Nat) (cs : List Char) :
    members? fuel (skipBlanks cs) = members? fuel cs := by
  cases fuel with
  | zero => rw [members?, members?]
  | succ fuel => rw [members?, members?, skipBlanks_skipBlanks]

theorem endsNumber_newLine (level : Nat) (rest : List Char) :
    EndsNumber (newLine level ++ rest) := by
  intro c hc
  obtain rfl : '\n' = c := Option.some.inj hc
  decide

theorem endsNumber_comma (rest : List Char) : EndsNumber (',' :: rest) := by
  intro c hc
  obtain rfl : ',' = c := Option.some.inj hc
  decide

theorem value?_digit {c : Char} (hc : c.isDigit = true) (fuel : Nat) (rest : List Char) :
    value? (fuel + 1) (c :: rest) = number? false (c :: rest) := by
  have hblank : isJsonBlank c = false := by
    cases hb : isJsonBlank c with
    | false => rfl
    | true =>
      simp only [isJsonBlank, Bool.or_eq_true, beq_iff_eq] at hb
      rcases hb with ((rfl | rfl) | rfl) | rfl <;> exact absurd hc (by decide)
  have hne : ∀ d : Char, d.isDigit = false → c ≠ d := by
    rintro d hd rfl
    exact absurd hc (by simp [hd])
  rw [value?, skipBlanks_of_not_blank hblank]
  split
  · exact absurd (List.cons.inj ‹_›).1 (hne _ (by decide))
  · exact absurd (List.cons.inj ‹_›).1 (hne _ (by decide))
  · exact absurd (List.cons.inj ‹_›).1 (hne _ (by decide))
  · exact absurd (List.cons.inj ‹_›).1 (hne _ (by decide))
  · exact absurd (List.cons.inj ‹_›).1 (hne _ (by decide))
  · exact absurd (List.cons.inj ‹_›).1 (hne _ (by decide))
  · exact absurd (List.cons.inj ‹_›).1 (hne _ (by decide))
  · rfl

theorem readsAs_integer {i : Int} (hi : IsWhole i) (level : Nat) :
    ReadsAs (prettyChars level (integer i)) (integer i) := by
  intro fuel rest hfuel hrest
  rw [prettyChars] at hfuel ⊢
  cases i with
  | ofNat n =>
    rw [intText] at hfuel ⊢
    cases htext : natText n with
    | nil => exact absurd htext (natText_ne_nil n)
    | cons c digits =>
      have hc : c.isDigit = true := isDigit_of_mem_natText (htext ▸ List.mem_cons_self)
      cases fuel with
      | zero => simp [htext] at hfuel
      | succ fuel =>
        rw [List.cons_append, value?_digit hc, ← List.cons_append, ← htext,
          number?_natText false n hrest, whole?_natText (Int.ofNat_le.1 hi.2)]
        rfl
  | negSucc n =>
    rw [intText] at hfuel ⊢
    cases fuel with
    | zero => simp at hfuel
    | succ fuel =>
      have hlow := hi.1
      rw [List.cons_append, value?, skipBlanks_of_not_blank (by decide)]
      simp only []
      rw [number?_natText true (n + 1) hrest, whole?_negative (by omega) (by omega)]
      rfl

theorem readsAs_string (s : String) (level : Nat) :
    ReadsAs (prettyChars level (string s)) (string s) := by
  intro fuel rest hfuel _
  rw [prettyChars, quote] at hfuel ⊢
  cases fuel with
  | zero => simp at hfuel
  | succ fuel =>
    rw [List.cons_append, List.cons_append, List.append_assoc, value?,
      skipBlanks_of_not_blank (by decide)]
    simp only [List.cons_append, List.nil_append, stringBody?_escaped, Option.map_some,
      String.ofList_toList]

theorem prettyItems_cons (level : Nat) (item next : Json) (rest : List Json) :
    prettyItems level (item :: next :: rest) =
      newLine level ++ (prettyChars level item ++ ',' :: prettyItems level (next :: rest)) := by
  rw [prettyItems, List.append_assoc]
  simp

theorem items?_pretty {level : Nat} {items : List Json} (hne : items ≠ [])
    (hitems : ∀ j ∈ items, ReadsAs (prettyChars level j) j) (fuel level' : Nat) (rest : List Char)
    (hfuel : (prettyItems level items).length ≤ fuel) :
    items? fuel (prettyItems level items ++ (newLine level' ++ ']' :: rest)) =
      some (items, rest) := by
  have hclose : skipBlanks (newLine level' ++ ']' :: rest) = ']' :: rest := by
    rw [skipBlanks_newLine, skipBlanks_of_not_blank (by decide)]
  induction items generalizing fuel with
  | nil => exact absurd rfl hne
  | cons item items ih =>
    have hitem := hitems item List.mem_cons_self
    cases items with
    | nil =>
      rw [prettyItems] at hfuel ⊢
      cases fuel with
      | zero => simp [newLine] at hfuel
      | succ fuel =>
        rw [List.length_append, newLine, List.length_cons] at hfuel
        rw [List.append_assoc, items?, value?_newLine,
          hitem fuel _ (by omega) (endsNumber_newLine _ _)]
        simp only [Option.bind_eq_bind, Option.bind_some, hclose]
    | cons next items =>
      rw [prettyItems_cons] at hfuel ⊢
      cases fuel with
      | zero => simp [newLine] at hfuel
      | succ fuel =>
        rw [List.length_append, List.length_append, newLine, List.length_cons,
          List.length_cons] at hfuel
        rw [List.append_assoc, List.append_assoc, List.cons_append, items?, value?_newLine,
          hitem fuel _ (by omega) (endsNumber_comma _)]
        simp only [Option.bind_eq_bind, Option.bind_some, skipBlanks_of_not_blank (c := ',') rfl]
        rw [ih (List.cons_ne_nil _ _) (fun j hj => hitems j (List.mem_cons_of_mem _ hj)) fuel
          (by omega)]
        rfl

theorem items?_bracket (fuel : Nat) (rest : List Char) : items? fuel (']' :: rest) = none := by
  cases fuel with
  | zero => rfl
  | succ fuel => cases fuel <;> rfl

theorem readsAs_array {items : List Json}
    (hitems : ∀ j ∈ items, ∀ level, ReadsAs (prettyChars level j) j) (level : Nat) :
    ReadsAs (prettyChars level (array items)) (array items) := by
  intro fuel rest hfuel _
  cases items with
  | nil =>
    cases fuel with
    | zero => simp [prettyChars, word] at hfuel
    | succ fuel => rfl
  | cons item items =>
    have htext : prettyChars level (array (item :: items)) =
        '[' :: (prettyItems (level + 1) (item :: items) ++ (newLine level ++ [']'])) := by
      rw [prettyChars] <;> simp
    rw [htext] at hfuel ⊢
    cases fuel with
    | zero => simp at hfuel
    | succ fuel =>
      rw [List.length_cons, List.length_append] at hfuel
      have hread := items?_pretty (List.cons_ne_nil item items)
        (fun j hj => hitems j hj (level + 1)) fuel level rest (by omega)
      simp only [List.cons_append, List.append_assoc, List.nil_append]
      generalize prettyItems (level + 1) (item :: items) ++ (newLine level ++ ']' :: rest) = text
        at hread
      rw [value?, skipBlanks_of_not_blank (by decide)]
      simp only []
      split
      · -- an item does not begin with the closing bracket
        rename_i closed hclosed
        rw [← items?_skipBlanks, hclosed, items?_bracket] at hread
        cases hread
      · rw [items?_skipBlanks, hread]
        rfl

def memberText (level : Nat) (m : String × Json) : List Char :=
  quote m.1 ++ ':' :: ' ' :: prettyChars level m.2

theorem prettyMembers_one (level : Nat) (m : String × Json) :
    prettyMembers level [m] = newLine level ++ memberText level m := by
  rw [prettyMembers, memberText, List.append_assoc]

theorem prettyMembers_cons (level : Nat) (m next : String × Json) (rest : List (String × Json)) :
    prettyMembers level (m :: next :: rest) =
      newLine level ++ (memberText level m ++ ',' :: prettyMembers level (next :: rest)) := by
  rw [prettyMembers, memberText]
  · simp
  · simp

theorem value?_blank (fuel : Nat) (cs : List Char) : value? fuel (' ' :: cs) = value? fuel cs := by
  rw [← value?_skipBlanks, skipBlanks, List.dropWhile_cons_of_pos (by decide), ← skipBlanks,
    value?_skipBlanks]

theorem members?_memberText {level : Nat} {m : String × Json}
    (hm : ReadsAs (prettyChars level m.2) m.2) (fuel : Nat) {tail rest : List Char} {c : Char}
    (hfuel : (prettyChars level m.2).length ≤ fuel) (htail : EndsNumber tail)
    (hskip : skipBlanks tail = c :: rest) (hc : c = ',' ∨ c = '\x7d') :
    members? (fuel + 1) (memberText level m ++ tail) =
      if c = ',' then (members? fuel rest).map fun p => (m :: p.1, p.2) else some ([m], rest) := by
  rw [memberText, quote, members?]
  simp only [List.cons_append, List.append_assoc, List.nil_append]
  rw [skipBlanks_of_not_blank (by decide)]
  simp only [stringBody?_escaped, Option.bind_eq_bind, Option.bind_some]
  rw [skipBlanks_of_not_blank (by decide)]
  simp only [value?_blank, hm fuel tail hfuel htail, Option.bind_some, String.ofList_toList, hskip]
  obtain rfl | rfl := hc
  · rw [if_pos rfl]
    change (members? fuel rest).bind _ = _
    cases members? fuel rest <;> rfl
  · rfl

theorem members?_newLine (fuel level : Nat) (cs : List Char) :
    members? fuel (newLine level ++ cs) = members? fuel cs := by
  rw [← members?_skipBlanks, skipBlanks_newLine, members?_skipBlanks]

theorem length_memberText (level : Nat) (m : String × Json) :
    (prettyChars level m.2).length ≤ (memberText level m).length := by
  simp only [memberText, List.length_append, List.length_cons]
  omega

theorem members?_pretty {level : Nat} {members : List (String × Json)} (hne : members ≠ [])
    (hmembers : ∀ m ∈ members, ReadsAs (prettyChars level m.2) m.2) (fuel level' : Nat)
    (rest : List Char) (hfuel : (prettyMembers level members).length ≤ fuel) :
    members? fuel (prettyMembers level members ++ (newLine level' ++ '\x7d' :: rest)) =
      some (members, rest) := by
  have hclose : skipBlanks (newLine level' ++ '\x7d' :: rest) = '\x7d' :: rest := by
    rw [skipBlanks_newLine, skipBlanks_of_not_blank (by decide)]
  induction members generalizing fuel with
  | nil => exact absurd rfl hne
  | cons m members ih =>
    have hm := hmembers m List.mem_cons_self
    have hlength := length_memberText level m
    cases members with
    | nil =>
      rw [prettyMembers_one] at hfuel ⊢
      cases fuel with
      | zero => simp [newLine] at hfuel
      | succ fuel =>
        rw [List.length_append, newLine, List.length_cons] at hfuel
        rw [List.append_assoc, members?_newLine,
          members?_memberText hm fuel (by omega) (endsNumber_newLine _ _) hclose (.inr rfl)]
        rfl
    | cons next members =>
      rw [prettyMembers_cons] at hfuel ⊢
      cases fuel with
      | zero => simp [newLine] at hfuel
      | succ fuel =>
        rw [List.length_append, List.length_append, newLine, List.length_cons,
          List.length_cons] at hfuel
        rw [List.append_assoc, List.append_assoc, members?_newLine, List.cons_append,
          members?_memberText hm fuel (by omega) (endsNumber_comma _)
            (skipBlanks_of_not_blank (by decide) _) (.inl rfl), if_pos rfl]
        rw [ih (List.cons_ne_nil _ _) (fun m hm => hmembers m (List.mem_cons_of_mem _ hm)) fuel
          (by omega)]
        rfl

theorem skipBlanks_prettyMembers (level : Nat) (m : String × Json) (members : List (String × Json))
    (rest : List Char) :
    ∃ cs, skipBlanks (prettyMembers level (m :: members) ++ rest) = '"' :: cs := by
  cases members with
  | nil =>
    rw [prettyMembers_one, List.append_assoc, skipBlanks_newLine, memberText, quote]
    exact ⟨_, skipBlanks_of_not_blank (by decide) _⟩
  | cons next members =>
    rw [prettyMembers_cons, List.append_assoc, skipBlanks_newLine, memberText, quote]
    exact ⟨_, skipBlanks_of_not_blank (by decide) _⟩

theorem readsAs_object {members : List (String × Json)}
    (hmembers : ∀ m ∈ members, ∀ level, ReadsAs (prettyChars level m.2) m.2) (level : Nat) :
    ReadsAs (prettyChars level (object members)) (object members) := by
  intro fuel rest hfuel _
  cases members with
  | nil =>
    cases fuel with
    | zero => simp [prettyChars, word] at hfuel
    | succ fuel => rfl
  | cons m members =>
    have htext : prettyChars level (object (m :: members)) =
        '\x7b' :: (prettyMembers (level + 1) (m :: members) ++ (newLine level ++ ['\x7d'])) := by
      rw [prettyChars] <;> simp
    rw [htext] at hfuel ⊢
    cases fuel with
    | zero => simp at hfuel
    | succ fuel =>
      rw [List.length_cons, List.length_append] at hfuel
      have hread := members?_pretty (List.cons_ne_nil m members)
        (fun m hm => hmembers m hm (level + 1)) fuel level rest (by omega)
      simp only [List.cons_append, List.append_assoc, List.nil_append]
      obtain ⟨cs, hcs⟩ :=
        skipBlanks_prettyMembers (level + 1) m members (newLine level ++ '\x7d' :: rest)
      rw [← members?_skipBlanks, hcs] at hread
      rw [value?, skipBlanks_of_not_blank (by decide)]
      simp only [hcs]
      change (members? fuel ('"' :: cs)).map _ = _
      rw [hread]
      rfl

theorem Readable.readsAs {j : Json} (h : Readable j) (level : Nat) :
    ReadsAs (prettyChars level j) j := by
  induction h generalizing level with
  | null =>
    intro fuel rest hfuel _
    cases fuel with
    | zero => simp [prettyChars, word] at hfuel
    | succ fuel => rfl
  | bool b =>
    intro fuel rest hfuel _
    cases b <;> cases fuel <;> first | rfl | simp [prettyChars, word] at hfuel
  | integer hi => exact readsAs_integer hi level
  | string s => exact readsAs_string s level
  | array _ ih => exact readsAs_array ih level
  | object _ ih => exact readsAs_object ih level

/-- What is written is read back. -/
theorem parse?_pretty {j : Json} (h : Readable j) : parse? j.pretty = some j := by
  have hread := h.readsAs 0 ((prettyChars 0 j).length + 1) [] (by omega) (by simp [EndsNumber])
  rw [List.append_nil] at hread
  rw [parse?, pretty, String.toList_ofList]
  simp only [hread]
  rfl

end SqlLineage.Json
