import SqlLineage.Proofs.Spelling

/-! Shared tokens and the cutter. Whatever token the lexer reads next, it takes a character at
least, and if the token is shared then the cutter goes through its spelling without a cut and
stands outside quotes and comments after it, or in a line comment that ends there. -/

namespace SqlLineage.Sql
open Script

variable {e b : Bool} {q ch : Char} {x w after cs tail body : List Char} {d : Dialect}
  {c c' : Cursor} {r : Scanned Token}

/-! ### Strings -/

/-- The rest of a literal after its opening quote. In triple quotes it must hold no quote but the
five that are left. -/
def ReadsText (b : Bool) (tail : List Char) (form : StringForm) (rest : List Char) : Prop :=
  ∃ w, tail = w ++ rest ∧ ((form.isTriple = true → w.count form.quote = 5) → Quoted b form.quote w)

theorem StringForm.isQuote_quote (form : StringForm) : isQuote form.quote = true := by
  cases form <;> rfl

theorem agrees_text (front : List Char) (form : StringForm) {value : String}
    (hc : c.rest = front ++ form.quote :: tail)
    (hfront : ∀ a ∈ front, isPlain a = true)
    (hread : ReadsText (form.escapes d) tail form c'.rest) :
    Agrees d c (.text form value, c') := by
  obtain ⟨w, rfl, hquoted⟩ := hread
  have hsuffix : w <:+ front ++ form.quote :: w :=
    (List.suffix_cons _ w).trans (List.suffix_append front _)
  refine ⟨front ++ form.quote :: w, by simp, by simp [hc], fun ⟨hescapes, hcount⟩ => ?_⟩
  have hfree : front.count form.quote = 0 := by
    refine List.count_eq_zero.2 fun hmem => absurd (hfront _ hmem) ?_
    cases form <;> decide
  have hw : Quoted (form.escapes d) form.quote w := hquoted fun htriple => by
    have hsix := hcount htriple
    simp only [List.count_append, hfree, List.count_cons_self] at hsix
    omega
  refine (crosses_of_inert (inert_of_plain hfront)).append (crosses_of_code (by simp) fun x _ => ?_)
  refine ⟨.code, ?_, .inl rfl⟩
  rw [scan?_open form.isQuote_quote]
  exact hw.scan? form.isQuote_quote (hescapes.of_suffix hsuffix)

theorem quotedString_read {form : StringForm} (hc : c.rest = form.quote :: tail)
    (h : quotedString form form.quote b c = .ok r) :
    ∃ value, r.1 = .text form value ∧ ReadsText b tail form r.2.rest := by
  obtain ⟨⟨body, c₁⟩, hbody, h⟩ := ok_of_bind h
  cases h
  rw [Cursor.next_of_rest hc] at hbody
  obtain ⟨w, hw, hquoted⟩ := quotedBody_quoted hbody
  exact ⟨_, rfl, w, hw, fun _ => hquoted⟩

theorem quotedOrTripleString_read {form triple : StringForm} (hquote : triple.quote = form.quote)
    (htriple : triple.isTriple = true) (hc : c.rest = form.quote :: tail)
    (h : quotedOrTripleString form triple form.quote b c = .ok r) :
    ∃ f value, (f = form ∨ f = triple) ∧ r.1 = .text f value ∧ ReadsText b tail f r.2.rest := by
  have hone := Cursor.next_of_rest hc
  unfold quotedOrTripleString at h
  dsimp only at h
  split at h
  case isFalse =>
    obtain ⟨⟨body, c₁⟩, hbody, h⟩ := ok_of_bind h
    cases h
    rw [hone] at hbody
    obtain ⟨w, hw, hquoted⟩ := quotedBody_quoted hbody
    exact ⟨form, _, .inl rfl, rfl, w, hw, fun _ => hquoted⟩
  case isTrue hsecond =>
    obtain ⟨two, htwo⟩ := Cursor.rest_of_peek? hsecond
    have hrest := Cursor.next_of_rest htwo
    rw [hone] at htwo
    split at h
    case isFalse =>
      cases h
      exact ⟨form, _, .inl rfl, rfl, [form.quote], by rw [hrest, htwo]; rfl, fun _ => .close⟩
    case isTrue hthird =>
      obtain ⟨three, hthree⟩ := Cursor.rest_of_peek? hthird
      obtain ⟨⟨body, c₁⟩, hbody, h⟩ := ok_of_bind h
      cases h
      rw [Cursor.next_of_rest hthree] at hbody
      obtain ⟨w, hw, -, hquoted⟩ := tripleQuotedBody_quoted (Nat.zero_le 2) hbody
      rw [hrest] at hthree
      refine ⟨triple, _, .inr rfl, rfl, form.quote :: form.quote :: w, ?_, fun hcount => ?_⟩
      · rw [htwo, hthree, hw]
        rfl
      · rw [hquote] at hcount ⊢
        have hfive := hcount htriple
        rw [List.count_cons_self, List.count_cons_self] at hfive
        exact .doubled (hquoted (by omega))

theorem quotedString_agrees (form : StringForm) {front : List Char} {one : Cursor}
    (hc : c.rest = front ++ one.rest) (hone : one.rest = form.quote :: tail)
    (hfront : ∀ a ∈ front, isPlain a = true)
    (h : quotedString form form.quote (form.escapes d) one = .ok r) : Agrees d c r := by
  obtain ⟨t, c'⟩ := r
  obtain ⟨value, rfl, hread⟩ := quotedString_read hone h
  exact agrees_text front _ (hone ▸ hc) hfront hread

theorem quotedOrTripleString_agrees (form triple : StringForm) {front : List Char} {one : Cursor}
    (hquote : triple.quote = form.quote) (htriple : triple.isTriple = true)
    (hescapes : triple.escapes d = form.escapes d)
    (hc : c.rest = front ++ one.rest) (hone : one.rest = form.quote :: tail)
    (hfront : ∀ a ∈ front, isPlain a = true)
    (h : quotedOrTripleString form triple form.quote (form.escapes d) one = .ok r) :
    Agrees d c r := by
  obtain ⟨t, c'⟩ := r
  obtain ⟨f, value, rfl | rfl, rfl, hread⟩ := quotedOrTripleString_read hquote htriple hone h
  · exact agrees_text front _ (hone ▸ hc) hfront hread
  · rw [← hescapes] at hread
    rw [hone, ← hquote] at hc
    exact agrees_text front _ hc hfront hread

theorem plainString_agrees (form triple : StringForm) {front : List Char} {one : Cursor}
    (hquote : triple.quote = form.quote) (htriple : triple.isTriple = true)
    (hescapes : triple.escapes d = form.escapes d)
    (hc : c.rest = front ++ one.rest) (hone : one.rest = form.quote :: tail)
    (hfront : ∀ a ∈ front, isPlain a = true)
    (h : plainString d form triple form.quote (form.escapes d) one = .ok r) : Agrees d c r := by
  unfold plainString at h
  split at h
  · exact quotedOrTripleString_agrees form triple hquote htriple hescapes hc hone hfront h
  · exact quotedString_agrees form hc hone hfront h

theorem stringLetter_plain (h : isStringLetter d ch = true) : isPlain ch = true :=
  isPlain_of_class h (by cases d <;> decide)

theorem escapedString_agrees {front : List Char} {place : Place} {one : Cursor}
    (hc : c.rest = front ++ one.rest) (hone : one.rest = '\'' :: tail)
    (hfront : ∀ a ∈ front, isPlain a = true) (h : escapedString place one = .ok r) :
    Agrees d c r := by
  unfold escapedString at h
  split at h
  case h_1 body rest hbody =>
    cases h
    obtain ⟨w, hw, hquoted⟩ := escapedBody_quoted hbody
    rw [Cursor.next_of_rest hone] at hw
    exact agrees_text front .escaped (hone ▸ hc) hfront ⟨w, hw, fun _ => hquoted⟩
  case h_2 => cases h

theorem letteredString?_agrees {letter quote : Char} (hc : c.rest = letter :: quote :: tail)
    (hletter : isPlain letter = true)
    (h : letteredString? d letter quote c = some (.ok r)) : Agrees d c r := by
  have hone : c.next.rest = quote :: tail := Cursor.next_of_rest hc
  have hfront : c.rest = [letter] ++ c.next.rest := by rw [hone, hc]; rfl
  have hplain : ∀ a ∈ [letter], isPlain a = true := by simpa using hletter
  unfold letteredString? at h
  dsimp only at h
  split at h
  case isTrue hbyte =>
    have h := Option.some.inj h
    simp only [Bool.and_eq_true, Bool.or_eq_true, decide_eq_true_eq] at hbyte h
    split at h
    case isTrue hquote =>
      subst hquote
      exact plainString_agrees .byteSingle .byteTripleSingle rfl rfl rfl hfront hone hplain h
    case isFalse hquote =>
      obtain rfl := hbyte.2.resolve_left hquote
      exact plainString_agrees .byteDouble .byteTripleDouble rfl rfl rfl hfront hone hplain h
  case isFalse =>
  split at h
  case isTrue hraw =>
    have h := Option.some.inj h
    simp only [Bool.and_eq_true, Bool.or_eq_true, decide_eq_true_eq] at hraw h
    split at h
    case isTrue hquote =>
      subst hquote
      exact quotedOrTripleString_agrees .rawSingle .rawTripleSingle rfl rfl rfl hfront hone hplain h
    case isFalse hquote =>
      obtain rfl := hraw.2.resolve_left hquote
      exact quotedOrTripleString_agrees .rawDouble .rawTripleDouble rfl rfl rfl hfront hone hplain h
  case isFalse =>
  split at h
  case isTrue hnational =>
    rw [Bool.and_eq_true, decide_eq_true_iff] at hnational
    obtain ⟨-, rfl⟩ := hnational
    exact quotedString_agrees .national hfront hone hplain (Option.some.inj h)
  case isFalse =>
  split at h
  case isTrue hescaped =>
    rw [Bool.and_eq_true, decide_eq_true_iff] at hescaped
    obtain ⟨-, rfl⟩ := hescaped
    exact escapedString_agrees hfront hone hplain (Option.some.inj h)
  case isFalse =>
  split at h
  case isTrue hunicode =>
    simp only [Bool.and_eq_true, decide_eq_true_eq] at hunicode
    obtain ⟨⟨-, rfl⟩, hsecond⟩ := hunicode
    rw [Cursor.second?, hone] at hsecond
    obtain ⟨rest, rfl⟩ := List.head?_eq_some_iff.1 hsecond
    obtain ⟨⟨body, c₁⟩, hbody, h⟩ := ok_of_bind (Option.some.inj h)
    cases h
    obtain ⟨w, hw, hquoted⟩ := unicodeBody_quoted hbody
    rw [Cursor.skip_rest, hone] at hw
    have hplain' : ∀ a ∈ [letter, '&'], isPlain a = true := by simpa using ⟨hletter, rfl⟩
    exact agrees_text [letter, '&'] .unicode hc hplain' ⟨w, hw, fun _ => hquoted⟩
  case isFalse =>
  split at h
  case isTrue hhex =>
    rw [Bool.and_eq_true, decide_eq_true_iff] at hhex
    obtain ⟨-, rfl⟩ := hhex
    exact quotedString_agrees .hex hfront hone hplain (Option.some.inj h)
  case isFalse => cases h

/-! ### Delimited names -/

theorem delimitedName_read {name : String} (h : delimitedName q c = .ok (name, c')) :
    ∃ w, c.next.rest = w ++ c'.rest ∧ Quoted false (closingQuote q) w := by
  unfold delimitedName at h
  dsimp only at h
  split at h
  case h_1 body rest hbody =>
    cases h
    exact delimitedBody_quoted hbody
  case h_2 => cases h

theorem isQuote_of_mem_identifierQuotes (h : q ∈ d.identifierQuotes) (hq : q ≠ '[') :
    isQuote q = true := by
  have hall : d.identifierQuotes.all (fun q => q == '[' || isQuote q) = true := by
    cases d <;> rfl
  simpa [hq] using List.all_eq_true.1 hall q h

theorem delimitedName_agrees {name : String} (hc : c.rest = q :: tail)
    (hq : q ∈ d.identifierQuotes) (h : delimitedName q c = .ok (name, c')) :
    Agrees d c (.word name "" (some q), c') := by
  obtain ⟨w, hw, hquoted⟩ := delimitedName_read h
  rw [Cursor.next_of_rest hc] at hw
  subst hw
  refine ⟨q :: w, List.cons_ne_nil q w, hc, fun hshared => ?_⟩
  change (if q = '[' then _ else SameEscapes _ false q (q :: w)) at hshared
  split at hshared
  case isTrue => exact crosses_of_inert hshared
  case isFalse hbracket =>
    have hquote := isQuote_of_mem_identifierQuotes hq hbracket
    rw [closingQuote, if_neg hbracket] at hquoted
    refine crosses_of_code (List.cons_ne_nil q w) fun x _ => ⟨.code, ?_, .inl rfl⟩
    rw [scan?_open hquote]
    exact hquoted.scan? hquote (hshared.of_suffix (List.suffix_cons q w))

theorem bracketedName_agrees {first : Char} (hc : c.rest = '[' :: tail)
    (h : bracketedName first c = .ok r) : Agrees d c r := by
  have hnext := Cursor.next_of_rest hc
  unfold bracketedName at h
  split at h
  case isFalse =>
    obtain ⟨⟨name, c₁⟩, hname, h⟩ := ok_of_bind h
    cases h
    obtain ⟨w, hw, -⟩ := delimitedName_read hname
    exact Bare.agrees ⟨⟨w, hnext ▸ hw.symm⟩, fun _ h => h⟩ hc
  case isTrue =>
    obtain ⟨⟨name, c₁⟩, hname, h⟩ := ok_of_bind h
    obtain ⟨w, hw, -⟩ := delimitedName_read hname
    have hinner : c₁.rest <:+ tail := by
      have hc₁ : c₁.rest <:+ (c.next.span Text.isBlank).2.rest :=
        .trans ⟨w, hw.symm⟩ (Cursor.next_suffix _)
      exact hnext ▸ hc₁.trans (Cursor.span_suffix _ _)
    dsimp only at h
    split at h
    · cases h
      have hclosing := (Cursor.next_suffix _).trans ((c₁.span_suffix Text.isBlank).trans hinner)
      exact Bare.agrees ⟨hclosing, fun _ h => h⟩ hc
    · cases h

/-! ### Comments -/

theorem span_stops {p : Char → Bool} (h : (c.span p).2.rest = ch :: tail) : p ch = false := by
  obtain ⟨place, rest⟩ := c
  induction rest generalizing place with
  | nil => cases h
  | cons a rest ih =>
    unfold Cursor.span Cursor.spanFrom at h
    split at h
    · exact ih _ h
    · cases h
      exact Bool.eq_false_iff.2 ‹_›

theorem lineComment_read (opening : String) :
    ∃ body mark, c.rest = body ++ mark ++ (lineComment d opening c).2.rest ∧
      (∀ a ∈ body, a ≠ '\n') ∧
      (mark = [] ∧ (lineComment d opening c).2.rest = [] ∨ mark = ['\n'] ∨
        mark = ['\r'] ∧ d.commentEndsAtReturn = true) := by
  let p : Char → Bool := fun ch => ch != '\n' && !(ch == '\r' && d.commentEndsAtReturn)
  have happend : (c.span p).1 ++ (c.span p).2.rest = c.rest := c.span_append p
  have hrest : (lineComment d opening c).2.rest = (c.span p).2.rest.tail := Cursor.next_rest _
  have hbody : ∀ a ∈ (c.span p).1, a ≠ '\n' := by
    rintro a ha rfl
    cases mem_span ha
  cases hafter : (c.span p).2.rest with
  | nil =>
    rw [hafter] at happend hrest
    exact ⟨_, [], by rw [hrest, ← happend]; simp, hbody, .inl ⟨rfl, hrest⟩⟩
  | cons a rest =>
    have ha : p a = false := span_stops hafter
    rw [hafter] at happend hrest
    refine ⟨_, [a], by rw [hrest, ← happend]; simp, hbody, .inr ?_⟩
    by_cases hfeed : a = '\n'
    · exact .inl (congrArg (fun a => [a]) hfeed)
    · simp only [p, Bool.and_eq_false_iff, bne_eq_false_iff_eq, Bool.not_eq_false', hfeed, false_or,
        Bool.and_eq_true, beq_iff_eq] at ha
      exact .inr ⟨congrArg (fun a => [a]) ha.1, ha.2⟩

theorem lineComment_agrees {opened : Cursor} (hc : c.rest = '-' :: '-' :: opened.rest) :
    Agrees d c (lineComment d "--" opened) := by
  obtain ⟨body, mark, hrest, hbody, hmark⟩ := lineComment_read (d := d) (c := opened) "--"
  refine ⟨'-' :: '-' :: (body ++ mark), List.cons_ne_nil _ _, by rw [hc, hrest]; rfl, fun h => ?_⟩
  change d.commentEndsAtReturn = true → _ ∨ Follows _ at h
  refine crosses_of_code (List.cons_ne_nil _ _) fun x hx => ?_
  rw [scan?_dashes, scan?_append, scan?_lineComment hbody, Option.bind_some]
  rcases hmark with ⟨rfl, hempty⟩ | rfl | ⟨rfl, hreturn⟩
  · exact ⟨.lineComment, rfl, .inr ⟨rfl, hempty ▸ hx⟩⟩
  · exact ⟨.code, rfl, .inl rfl⟩
  · have hlast : ('-' :: '-' :: body ++ ['\r']).getLast? = some '\r' := List.getLast?_concat
    have hfollows := (h hreturn).resolve_left fun heq => by cases hlast.symm.trans heq
    exact ⟨.lineComment, rfl, .inr ⟨rfl, hfollows.append hx⟩⟩

theorem blockComment_agrees {opened : Cursor} (hc : c.rest = '/' :: '*' :: opened.rest)
    (h : blockComment d opened = .ok r) : Agrees d c r := by
  obtain ⟨⟨body, c₁⟩, hbody, h⟩ := ok_of_bind h
  cases h
  obtain ⟨hrest, -, hupTo⟩ := blockBody_upTo hbody
  refine ⟨'/' :: '*' :: (body ++ ['*', '/']), List.cons_ne_nil _ _, ?_, fun hshared => ?_⟩
  · rw [hc, hrest]
    rfl
  · change d.nestedComments = true → ¬ ['*', '/'] <:+: (String.ofList body).toList at hshared
    rw [String.toList_ofList] at hshared
    refine crosses_of_code (List.cons_ne_nil _ _) fun x _ => ⟨.code, ?_, .inl rfl⟩
    rw [scan?_cons _ (by simp), scan?_cons _ (by simp [Mode.step, codeStep])]
    exact (hupTo rfl hshared).scan? (by simp) seeks_blockComment

/-! ### Dollar signs -/

theorem dollarValue_agrees (hc : c.rest = '$' :: tail) (h : dollarValue d c = .ok r) :
    Agrees d c r := by
  have hnext := Cursor.next_of_rest hc
  unfold dollarValue at h
  dsimp only at h
  split at h
  case isTrue hplain =>
    rw [Bool.and_eq_true, decide_eq_true_iff] at hplain
    obtain ⟨rest, hrest⟩ := Cursor.rest_of_peek? hplain.1
    obtain ⟨⟨body, c₁⟩, hbody, h⟩ := ok_of_bind h
    cases h
    rw [Cursor.next_of_rest hrest] at hbody
    obtain ⟨w, hw, hupTo⟩ := plainDollarBody_upTo hbody
    refine ⟨'$' :: '$' :: w, List.cons_ne_nil _ _, ?_, fun _ => ?_⟩
    · rw [hc, ← hnext, hrest, hw]
      rfl
    · refine crosses_of_code (List.cons_ne_nil _ _) fun x _ => ⟨.code, ?_, .inl rfl⟩
      exact scan?_dollarQuote [] rfl rfl hupTo
  case isFalse =>
    rcases hspan : c.next.span _ with ⟨tag, c₁⟩
    have happend := c.next.span_append fun ch =>
      isAlphanumeric ch || ch == '_' || (ch == '$' && d.dollarPlaceholders)
    rw [hspan] at h happend
    dsimp only at h happend
    split at h
    case isTrue htagged =>
      rw [Bool.and_eq_true, decide_eq_true_iff] at htagged
      obtain ⟨rest, hrest⟩ := Cursor.rest_of_peek? htagged.1
      obtain ⟨⟨body, c₂⟩, hbody, h⟩ := ok_of_bind h
      cases h
      rw [Cursor.next_of_rest hrest] at hbody
      obtain ⟨w, hw, hupTo⟩ := taggedDollarBody_upTo (by simp) hbody
      refine ⟨'$' :: tag ++ '$' :: w, List.cons_ne_nil _ _, ?_, fun hshared => ?_⟩
      · rw [hc, ← hnext, ← happend, hrest, hw]
        simp
      · change ∀ t ∈ (if tag.isEmpty then none else some (String.ofList tag)), _ ∧ _ at hshared
        have htag : tag.all isTagCharacter = true ∧ tag.head?.any Char.isDigit = false := by
          cases tag with
          | nil => exact ⟨rfl, rfl⟩
          | cons a tag => simpa using hshared _ rfl
        refine crosses_of_code (List.cons_ne_nil _ _) fun x _ => ⟨.code, ?_, .inl rfl⟩
        exact scan?_dollarQuote tag htag.1 htag.2 hupTo
    case isFalse =>
      cases h
      exact Bare.agrees ⟨⟨tag, happend.trans hnext⟩, fun _ h => h⟩ hc

/-! ### Tokens -/

theorem of_ite_eq {α : Type} {p goal : Prop} [Decidable p] {s t y : α} (hpos : p → s = y → goal)
    (hneg : ¬ p → t = y → goal) (h : (if p then s else t) = y) : goal := by
  split at h
  · exact hpos ‹p› h
  · exact hneg ‹¬ p› h

theorem Bare.agrees_of_ok {r' : Scanned Token} (h : Bare d tail r') (hc : c.rest = ch :: tail)
    (heq : Except.ok r' = (.ok r : Except LexError _)) : Agrees d c r := by
  cases heq
  exact h.agrees hc

theorem length_operators :
    ∀ spelling ∈ openOperators ++ closedOperators, 0 < spelling.length := by decide

theorem scanToken_agrees (hc : c.rest = ch :: tail) (h : scanToken d ch c = .ok r) :
    Agrees d c r := by
  have hnext := Cursor.next_of_rest hc
  have hone : c.next.rest <:+ tail := hnext ▸ List.suffix_refl _
  have htwo : c.next.next.rest <:+ tail := (Cursor.next_suffix _).trans hone
  have hskip : ∀ n, 0 < n → (c.skip n).rest <:+ tail := by
    intro n hn
    obtain ⟨n, rfl⟩ := Nat.exists_eq_succ_of_ne_zero (Nat.ne_of_gt hn)
    rw [Cursor.skip_rest, hc, List.drop_succ_cons]
    exact List.drop_suffix n tail
  revert h
  unfold scanToken
  dsimp only
  -- White space: one character, or two for a carriage return with its line feed.
  refine of_ite_eq (fun _ => Bare.agrees_of_ok ⟨hone, fun _ h => h⟩ hc) fun _ => ?_
  refine of_ite_eq (fun _ => Bare.agrees_of_ok ⟨hone, fun _ h => h⟩ hc) fun _ => ?_
  refine of_ite_eq (fun _ => Bare.agrees_of_ok ⟨hone, fun _ h => h⟩ hc) fun _ => ?_
  refine of_ite_eq (fun _ => Bare.agrees_of_ok ⟨?_, fun _ h => h⟩ hc) fun _ => ?_
  · dsimp only
    split
    · exact htwo
    · exact hone
  -- Literals and delimited names.
  refine of_ite_eq (fun hletter => ?_) fun _ => ?_
  · split
    case h_1 scan hscan =>
      intro h
      obtain ⟨quote, hpeek, hscan⟩ := Option.bind_eq_some_iff.1 hscan
      obtain ⟨rest, hrest⟩ := Cursor.rest_of_peek? hpeek
      rw [hnext] at hrest
      exact letteredString?_agrees (hrest ▸ hc) (stringLetter_plain hletter) (h ▸ hscan)
    case h_2 => exact ((bareWord_bare _).mono hone).agrees_of_ok hc
  refine of_ite_eq (fun hquote h => ?_) fun _ => ?_
  · subst hquote
    exact plainString_agrees .single .tripleSingle rfl rfl rfl (List.nil_append _).symm hc nofun h
  refine of_ite_eq (fun hquote h => ?_) fun _ => ?_
  · rw [Bool.and_eq_true, decide_eq_true_iff] at hquote
    obtain ⟨rfl, -⟩ := hquote
    exact plainString_agrees .double .tripleDouble rfl rfl rfl (List.nil_append _).symm hc nofun h
  refine of_ite_eq (fun hquote h => ?_) fun _ => ?_
  · obtain ⟨⟨name, c₁⟩, hname, h⟩ := ok_of_bind h
    cases h
    exact delimitedName_agrees hc (List.contains_iff_mem.1 hquote) hname
  refine of_ite_eq (fun hbracket h => ?_) fun _ => ?_
  · simp only [Bool.and_eq_true, decide_eq_true_eq] at hbracket
    obtain ⟨⟨rfl, -⟩, -⟩ := hbracket
    exact bracketedName_agrees hc h
  refine of_ite_eq (fun hnumber h => ?_) fun _ => ?_
  · cases h
    exact numberOrPeriod_agrees hc (by simpa using hnumber)
  -- Comments. Those that the cutter does not know are bare.
  refine of_ite_eq (fun hdashes h => ?_) fun _ => ?_
  · cases h
    rw [Bool.and_eq_true, decide_eq_true_iff, decide_eq_true_iff] at hdashes
    obtain ⟨rfl, hpeek⟩ := hdashes
    obtain ⟨rest, hrest⟩ := Cursor.rest_of_peek? hpeek
    refine lineComment_agrees ?_
    rw [Cursor.next_of_rest hrest, hc, ← hnext, hrest]
  refine of_ite_eq (fun hslash => ?_) fun _ => ?_
  · subst hslash
    refine of_ite_eq (fun hpeek h => ?_) fun _ => ?_
    · obtain ⟨rest, hrest⟩ := Cursor.rest_of_peek? hpeek
      refine blockComment_agrees ?_ h
      rw [Cursor.next_of_rest hrest, hc, ← hnext, hrest]
    refine of_ite_eq (fun _ => ((lineComment_bare (by decide)).mono htwo).agrees_of_ok hc)
      fun _ => ?_
    exact of_ite_eq (fun _ => ((symbol_bare _).mono htwo).agrees_of_ok hc)
      fun _ => ((symbol_bare _).mono hone).agrees_of_ok hc
  refine of_ite_eq (fun _ => ((lineComment_bare (by decide)).mono hone).agrees_of_ok hc) fun _ => ?_
  -- Operators, words and dollar signs.
  refine of_ite_eq (fun _ => (hashSign_bare.mono hone).agrees_of_ok hc) fun _ => ?_
  refine of_ite_eq (fun _ => (atSign_bare.mono hone).agrees_of_ok hc) fun _ => ?_
  refine of_ite_eq (fun _ => (questionMark_bare.mono hone).agrees_of_ok hc) fun _ => ?_
  refine of_ite_eq (fun _ => ((symbol_bare _).mono hone).agrees_of_ok hc) fun _ => ?_
  split
  case h_1 spelling hfound =>
    have hpos := length_operators _ (List.mem_append_left _ (List.mem_of_find?_eq_some hfound))
    exact ((operator_bare _).mono (hskip _ hpos)).agrees_of_ok hc
  case h_2 =>
    split
    case h_1 spelling hfound =>
      have hpos := length_operators _ (List.mem_append_right _ (List.mem_of_find?_eq_some hfound))
      exact ((symbol_bare _).mono (hskip _ hpos)).agrees_of_ok hc
    case h_2 =>
      refine of_ite_eq (fun _ => ((identifierOrNumber_bare _).mono hone).agrees_of_ok hc)
        fun _ => ?_
      refine of_ite_eq (fun hdollar h => ?_) fun _ => ?_
      · subst hdollar
        exact dollarValue_agrees hc h
      exact of_ite_eq (fun _ => Bare.agrees_of_ok ⟨hone, fun _ h => h⟩ hc)
        fun _ => ((symbol_bare _).mono hone).agrees_of_ok hc

end SqlLineage.Sql
