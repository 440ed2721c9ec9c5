import SqlLineage.Proofs.WrittenName

/-! The parts of a name. Dots between them give the name back, none of them can be cut any further,
and no cut is at a dot within quotes. A name can be cut like this in one way only, also if quotes
are mixed or one of them is left open. -/

namespace SqlLineage

namespace Text

theorem intercalate_consFirst {parts : List (List Char)} (h : parts ≠ []) (separator c : Char) :
    [separator].intercalate (consFirst c parts) = c :: [separator].intercalate parts := by
  obtain ⟨part, parts, rfl⟩ := List.exists_cons_of_ne_nil h
  cases parts with
  | nil => rw [consFirst, List.intercalate_singleton, List.intercalate_singleton]
  | cons next parts =>
    rw [consFirst, List.intercalate_cons_cons, List.intercalate_cons_cons]
    rfl

theorem intercalate_map_ofList (parts : List (List Char)) :
    ".".intercalate (parts.map String.ofList) = String.ofList (['.'].intercalate parts) := by
  have hparts : (parts.map String.ofList).map String.toList = parts := by simp
  rw [← String.toList_inj, String.toList_ofList, String.toList_intercalate, hparts]
  rfl

end Text

open Text

variable {quote : Option Char} {c : Char} {part : List Char} {parts : List (List Char)}

def quotePairs : List (Char × Char) := [('"', '"'), ('\x60', '\x60'), ('\'', '\''), ('[', ']')]

theorem closing?_eq_lookup (c : Char) : closing? c = quotePairs.lookup c := by
  by_cases hdouble : c = '"'
  · subst hdouble
    rfl
  by_cases hback : c = '\x60'
  · subst hback
    rfl
  by_cases hsingle : c = '\''
  · subst hsingle
    rfl
  by_cases hopen : c = '['
  · subst hopen
    rfl
  have hnone : quotePairs.lookup c = none := by
    rw [List.lookup_eq_none_iff]
    simp [quotePairs, hdouble, hback, hsingle, hopen]
  rw [hnone]
  simp [closing?, hdouble, hback, hsingle, hopen]

def quoteStep (quote : Option Char) (c : Char) : Option Char :=
  quote.elim (quotePairs.lookup c) fun q => if c = q then none else some q

def quoteAfter (quote : Option Char) (cs : List Char) : Option Char := cs.foldl quoteStep quote

theorem splitQualified_dot (cs : List Char) :
    splitQualified none ('.' :: cs) = [] :: splitQualified none cs := by
  rw [splitQualified, if_pos rfl]

theorem splitQualified_cons (h : ¬ (quote = none ∧ c = '.')) (cs : List Char) :
    splitQualified quote (c :: cs) = consFirst c (splitQualified (quoteStep quote c) cs) := by
  cases quote with
  | some q => rfl
  | none =>
    have hdot : c ≠ '.' := fun hc => h ⟨rfl, hc⟩
    rw [splitQualified, if_neg hdot, closing?_eq_lookup]
    rfl

theorem intercalate_splitQualified (quote : Option Char) (cs : List Char) :
    ['.'].intercalate (splitQualified quote cs) = cs := by
  induction cs generalizing quote with
  | nil => rfl
  | cons c cs ih =>
    by_cases hcut : quote = none ∧ c = '.'
    · obtain ⟨rfl, rfl⟩ := hcut
      have hrest := ih none
      obtain ⟨part, parts, hparts⟩ := List.exists_cons_of_ne_nil (splitQualified_ne_nil none cs)
      rw [hparts] at hrest
      rw [splitQualified_dot, hparts, List.intercalate_cons_cons, hrest]
      rfl
    · rw [splitQualified_cons hcut, intercalate_consFirst (splitQualified_ne_nil _ cs), ih]

/-! ### Dots where no quote is open -/

/-- Every dot of the text is within quotes. -/
def Undivided (quote : Option Char) (cs : List Char) : Prop :=
  ∀ front rest, cs = front ++ '.' :: rest → quoteAfter quote front ≠ none

theorem undivided_nil (quote : Option Char) : Undivided quote [] := by
  intro front rest h
  simp at h

theorem undivided_cons (quote : Option Char) (c : Char) (cs : List Char) :
    Undivided quote (c :: cs) ↔
      ¬ (quote = none ∧ c = '.') ∧ Undivided (quoteStep quote c) cs := by
  constructor
  · intro h
    refine ⟨?_, ?_⟩
    · rintro ⟨rfl, rfl⟩
      exact h [] cs rfl rfl
    · intro front rest hcs
      exact h (c :: front) rest (congrArg (c :: ·) hcs)
  · rintro ⟨hfirst, hrest⟩ front rest hcs
    cases front with
    | nil =>
      obtain ⟨rfl, -⟩ := List.cons_eq_cons.1 hcs
      exact fun hquote => hfirst ⟨hquote, rfl⟩
    | cons d front =>
      obtain ⟨rfl, htail⟩ := List.cons_eq_cons.1 hcs
      exact hrest front rest htail

theorem Undivided.splitQualified_append {cs : List Char} (h : Undivided quote cs)
    (rest : List Char) :
    splitQualified quote (cs ++ rest) =
      prependFirst cs (splitQualified (quoteAfter quote cs) rest) := by
  induction cs generalizing quote with
  | nil => exact (prependFirst_nil (splitQualified_ne_nil quote rest)).symm
  | cons c cs ih =>
    obtain ⟨hfirst, hrest⟩ := (undivided_cons quote c cs).1 h
    rw [List.cons_append, splitQualified_cons hfirst, ih hrest, consFirst_prependFirst]
    rfl

theorem Undivided.splitQualified_eq {cs : List Char} (h : Undivided quote cs) :
    splitQualified quote cs = [cs] := by
  have hsplit := h.splitQualified_append []
  rwa [List.append_nil, splitQualified, prependFirst, List.append_nil] at hsplit

/-! ### The only parts -/

/-- Parts that are cut at dots where no quote is open and hold no such dot. Each but the first
starts outside quotes, and each but the last closes its quotes. -/
inductive DottedParts : Option Char → List (List Char) → Prop
  | last {quote : Option Char} {part : List Char} :
      Undivided quote part → DottedParts quote [part]
  | next {quote : Option Char} {part : List Char} {parts : List (List Char)} :
      Undivided quote part → quoteAfter quote part = none → DottedParts none parts →
      DottedParts quote (part :: parts)

namespace DottedParts

theorem ne_nil (h : DottedParts quote parts) : parts ≠ [] := by
  cases h <;> exact List.cons_ne_nil _ _

theorem consFirst (hfirst : ¬ (quote = none ∧ c = '.'))
    (h : DottedParts (quoteStep quote c) parts) : DottedParts quote (Text.consFirst c parts) := by
  cases h with
  | last hpart => exact .last ((undivided_cons quote c _).2 ⟨hfirst, hpart⟩)
  | next hpart hclosed hrest =>
    exact .next ((undivided_cons quote c _).2 ⟨hfirst, hpart⟩) hclosed hrest

theorem undivided_of_mem (h : DottedParts quote parts) (hmem : part ∈ parts) :
    Undivided quote part ∨ Undivided none part := by
  induction h with
  | last hpart =>
    obtain rfl := List.mem_singleton.1 hmem
    exact .inl hpart
  | next hpart _ _ ih =>
    rcases List.mem_cons.1 hmem with rfl | hmem
    · exact .inl hpart
    · exact .inr ((or_self _).mp (ih hmem))

theorem splitQualified_intercalate (h : DottedParts quote parts) :
    splitQualified quote (['.'].intercalate parts) = parts := by
  induction h with
  | last hpart =>
    rw [List.intercalate_singleton]
    exact hpart.splitQualified_eq
  | @next quote part parts hpart hclosed hrest ih =>
    obtain ⟨second, others, rfl⟩ := List.exists_cons_of_ne_nil hrest.ne_nil
    rw [List.intercalate_cons_cons, List.append_assoc, List.singleton_append,
      hpart.splitQualified_append, hclosed, splitQualified_dot, ih, prependFirst,
      List.append_nil]

end DottedParts

theorem dottedParts_splitQualified (quote : Option Char) (cs : List Char) :
    DottedParts quote (splitQualified quote cs) := by
  induction cs generalizing quote with
  | nil => exact .last (undivided_nil quote)
  | cons c cs ih =>
    by_cases hcut : quote = none ∧ c = '.'
    · obtain ⟨rfl, rfl⟩ := hcut
      rw [splitQualified_dot]
      exact .next (undivided_nil none) rfl (ih none)
    · rw [splitQualified_cons hcut]
      exact (ih (quoteStep quote c)).consFirst hcut

/-- A name has one part at least, its parts with dots between them are the name, and each part is
its own only part. No other list of texts that is cut at dots outside quotes, and only there, joins
to the name. -/
theorem splitQualified_lossless (name : String) :
    splitQualified none name.toList ≠ [] ∧
      ".".intercalate ((splitQualified none name.toList).map String.ofList) = name ∧
      (∀ part ∈ splitQualified none name.toList, splitQualified none part = [part]) ∧
      ∀ parts, splitQualified none name.toList = parts ↔
        DottedParts none parts ∧ ".".intercalate (parts.map String.ofList) = name := by
  have hparts := dottedParts_splitQualified none name.toList
  have hjoin : ".".intercalate ((splitQualified none name.toList).map String.ofList) = name := by
    rw [intercalate_map_ofList, intercalate_splitQualified, String.ofList_toList]
  refine ⟨hparts.ne_nil, hjoin, ?_, ?_⟩
  · intro part hpart
    have hundivided := (or_self _).mp (hparts.undivided_of_mem hpart)
    exact hundivided.splitQualified_eq
  · intro parts
    constructor
    · rintro rfl
      exact ⟨hparts, hjoin⟩
    · rintro ⟨hdotted, rfl⟩
      rw [intercalate_map_ofList, String.toList_ofList]
      exact hdotted.splitQualified_intercalate

-- a bracket that holds a quote, and a quote that is left open
example : splitQualified none "a..[b.\"c].'d.e".toList =
    ["a".toList, [], "[b.\"c]".toList, "'d.e".toList] := by
  decide +kernel

end SqlLineage
