/-
# Spaced lists

Lists of numbers or words with blanks between them.  However the elements are written and however
many blanks stand before and between them, the grammar of a list reads back the elements.  Blanks
behind the last element belong to no element and are not consumed.
-/
import TokenGrammar.Proofs.DecimalNumbers
import TokenGrammar.Proofs.NaturalNumbers

namespace TokenGrammar

/-! ## Blanks are neither digits nor letters -/

/-- What passes for a digit is no blank. -/
theorem Number.DigitLike.isBlank_eq_false {base : Nat} {c : Char} (h : DigitLike base c) :
    Character.isBlank c = false := by
  rcases h.isAlphanum_or_eq with hc | rfl
  · have hall : c.isAlphanum = true → Character.isBlank c = false :=
      Character.forall_ascii (P := fun c => c.isAlphanum = true → Character.isBlank c = false)
        (by decide) (Character.toNat_lt_of_isAlphanum hc)
    exact hall hc
  · decide

/-- A letter is no blank. -/
theorem Character.isBlank_eq_false_of_isLetter {c : Char} (h : isLetter c = true) :
    isBlank c = false := by
  by_cases hc : c.toNat < 0x7f
  · have hall : isLetter c = true → isBlank c = false :=
      forall_ascii (P := fun c => isLetter c = true → isBlank c = false) (by decide) hc
    exact hall h
  · rw [isLetter, if_neg hc] at h
    rw [isBlank, if_neg hc]
    have hapart : letterRanges.apart blankRanges = true := by decide +kernel
    exact Ranges.has_eq_false_of_apart hapart h

/-! ## Integers with a sign -/

namespace Number

/-- `w` is a numeral of `n` in base 10 with at most 4300 digits, behind a sign or without one. -/
inductive Signed : List Char → Int → Prop where
  | plain {w : List Char} {v : Nat} (hw : Denotes 10 w v) (hshort : w.length ≤ 4300) : Signed w v
  | plus {w : List Char} {v : Nat} (hw : Denotes 10 w v) (hshort : w.length ≤ 4300) :
    Signed ('+' :: w) v
  | minus {w : List Char} {v : Nat} (hw : Denotes 10 w v) (hshort : w.length ≤ 4300) :
    Signed ('-' :: w) (-v)

namespace Signed

variable {w : List Char} {n : Int}

/-- A signed numeral is a sign, if any, and a numeral that is short enough. -/
theorem exists_denotes (h : Signed w n) :
    ∃ s ∈ 1 + signs, ∃ u v, w = s ++ u ∧ Denotes 10 u v ∧ u.length ≤ maxDigits ∧
      n = if s = ['-'] then -(v : Int) else v := by
  cases h with
  | plain hw hshort => exact ⟨[], Or.inl rfl, _, _, rfl, hw, hshort, rfl⟩
  | plus hw hshort => exact ⟨['+'], Or.inr (Or.inl rfl), _, _, rfl, hw, hshort, rfl⟩
  | minus hw hshort => exact ⟨['-'], Or.inr (Or.inr rfl), _, _, rfl, hw, hshort, rfl⟩

/-- A signed numeral is an integer. -/
theorem mem_integers (h : Signed w n) : w ∈ integers := by
  obtain ⟨s, hs, u, v, rfl, hu, -, -⟩ := h.exists_denotes
  rcases hs with rfl | hs
  · exact Or.inl hu.mem_naturals
  · exact Or.inr (Language.append_mem_mul hs hu.mem_naturals)

/-- A signed numeral converts to the number it stands for. -/
theorem toInt_eq (h : Signed w n) : Datum.toInt (.text w) = .ok (.int n) := by
  obtain ⟨s, hs, u, v, rfl, hu, hshort, rfl⟩ := h.exists_denotes
  exact Datum.toIntIn_of_denotes hs hu (Or.inr hshort)

end Signed

end Number

/-! ## Lists and their elements -/

namespace Text

/-- `b` consists of blanks, if it is not empty. -/
def Blanks (b : List Char) : Prop :=
  ∀ c ∈ b, Character.isBlank c = true

/-- `t` lists elements: it renders them one after the other, with one or more blanks between one and
the next. -/
inductive Listing {α : Type} (renders : List Char → α → Prop) : List Char → List α → Prop where
  | last {w : List Char} {a : α} (hw : renders w a) : Listing renders w [a]
  | more {w b t : List Char} {a : α} {as : List α} (hw : renders w a) (hne : b ≠ [])
      (hb : Blanks b) (ht : Listing renders t as) : Listing renders (w ++ (b ++ t)) (a :: as)

end Text

namespace Parser

/-- On windows inside `top` the parser reads a rendered element back if a blank or nothing follows,
and fails at the end.  No element is rendered with a blank in front. -/
structure Elements {α : Type} (p : Parser) (top : Span) (renders : List Char → α → Prop)
    (value : α → Datum) : Prop where
  starts : ∀ {w a}, renders w a → ∃ c v, w = c :: v ∧ Character.isBlank c = false
  yields : ∀ {r w a u}, r.Within top → r.Shows (w ++ u) → renders w a →
    (∀ c ∈ u.head?, Character.isBlank c = true) →
    ∃ s, s.Within r ∧ s.Shows u ∧ p.Yields r (value a) s
  fails : ∀ {r}, r.Within top → r.Shows [] → ∃ f, p.Fails r f

/-- On windows inside `top` the parser consumes the blanks that come first, if there are any. -/
def SkipsBlanks (k : Parser) (top : Span) : Prop :=
  ∀ {r b u}, r.Within top → r.Shows (b ++ u) → Text.Blanks b →
    (∀ c ∈ u.head?, ¬ Character.isBlank c = true) → ∃ x hle, k.Succeeds r x (r.drop b.length hle)

section Lists

variable {α : Type} {renders : List Char → α → Prop} {value : α → Datum} {p k : Parser}
  {top r : Span} {b t u w : List Char} (hp : p.Elements top renders value)
  (hk : k.SkipsBlanks top)
include hp hk

/-- Behind blanks an element is read. -/
theorem Elements.yields_ignoreLeft {a : α} (hr : r.Within top) (ht : r.Shows (b ++ (w ++ u)))
    (hb : Text.Blanks b) (hw : renders w a) (hu : ∀ c ∈ u.head?, Character.isBlank c = true) :
    ∃ s, s.Within r ∧ s.Shows u ∧ s.start ≠ r.start ∧ (k.ignoreLeft p).Yields r (value a) s := by
  obtain ⟨c, v, rfl, hc⟩ := hp.starts hw
  have hstop : ∀ d ∈ (c :: v ++ u).head?, ¬ Character.isBlank d = true := by
    intro d hd
    obtain rfl := Option.some.inj hd
    rw [hc]
    exact Bool.false_ne_true
  obtain ⟨x, hle, hx⟩ := hk hr ht hb hstop
  obtain ⟨s, hs, hsu, hy⟩ := hp.yields (hr.drop b.length hle) ht.drop_append hw hu
  have hwithin : s.Within r := hs.trans ((Span.Within.refl r).drop b.length hle)
  have hmoved : s.start ≠ r.start := by
    have hstart := Span.Shows.start_eq (w := b ++ c :: v) (by rwa [List.append_assoc]) hwithin hsu
    rw [List.length_append, List.length_cons] at hstart
    omega
  exact ⟨s, hwithin, hsu, hmoved, (hx.result_ignoreLeft p).trans hy⟩

/-- Blanks alone are no element, and they are not consumed. -/
theorem Elements.fails_ignoreLeft (hr : r.Within top) (ht : r.Shows b) (hb : Text.Blanks b) :
    ∃ f, (k.ignoreLeft p).Fails r f := by
  have hshows : r.Shows (b ++ []) := by rwa [List.append_nil]
  obtain ⟨x, hle, hx⟩ := hk hr hshows hb (by simp)
  obtain ⟨f, hf⟩ := hp.fails (hr.drop b.length hle) hshows.drop_append
  exact ⟨f, (hx.result_ignoreLeft p).trans hf⟩

/-- The elements of a list are read one after the other.  The induction is on the list. -/
theorem Elements.exists_repeats {as : List α} (ht : Text.Listing renders t as) (hr : r.Within top)
    (hshows : r.Shows (b ++ (t ++ u))) (hb : Text.Blanks b)
    (hu : ∀ c ∈ u.head?, Character.isBlank c = true) :
    ∃ os s, s.Within r ∧ s.Shows u ∧ os ≠ [] ∧ (k.ignoreLeft p).Repeats r os s ∧
      os.filterMap Outcome.value? = as.map value := by
  induction ht generalizing r b with
  | @last w a hw =>
    obtain ⟨s, hs, hsu, hmoved, hy⟩ := hp.yields_ignoreLeft hk hr hshows hb hw hu
    exact ⟨_, s, hs, hsu, List.cons_ne_nil _ _, .step hy.succeeds hmoved (.stop s), rfl⟩
  | @more w b' t a as hw hne hb' ht ih =>
    have hfirst : r.Shows (b ++ (w ++ (b' ++ (t ++ u)))) := by
      simpa only [List.append_assoc] using hshows
    have hblank : ∀ c ∈ (b' ++ (t ++ u)).head?, Character.isBlank c = true := by
      intro c hc
      rw [List.head?_append_of_ne_nil b' hne] at hc
      exact hb' c (List.mem_of_mem_head? hc)
    obtain ⟨s, hs, hsu, hmoved, hy⟩ := hp.yields_ignoreLeft hk hr hfirst hb hw hblank
    obtain ⟨os, s', hs', hsu', -, hrepeats, hvalues⟩ := ih (hs.trans hr) hsu hb'
    exact ⟨_, s', hs'.trans hs, hsu', List.cons_ne_nil _ _, .step hy.succeeds hmoved hrepeats,
      congrArg (value a :: ·) hvalues⟩

/-- A repetition reads the elements of a list and leaves the blanks behind them. -/
theorem Elements.exists_succeeds_oneOrMore (hcontained : (k.ignoreLeft p).Contained)
    {cap : Int} (hcap : top.length < cap) {as : List α} (ht : Text.Listing renders t as)
    (hshows : top.Shows (b ++ (t ++ u))) (hb : Text.Blanks b) (hu : Text.Blanks u) :
    ∃ x s, ((k.ignoreLeft p).oneOrMore cap none).Succeeds top x s ∧ x.values = as.map value ∧
      s.Shows u ∧ s.start = top.start + (b ++ t).length := by
  have hhead : ∀ c ∈ u.head?, Character.isBlank c = true := fun c hc =>
    hu c (List.mem_of_mem_head? hc)
  obtain ⟨os, s, hs, hsu, hne, hrepeats, hvalues⟩ :=
    hp.exists_repeats hk ht (.refl top) hshows hb hhead
  -- the last attempt takes the blanks and fails behind them
  obtain ⟨f, hf⟩ := hp.fails_ignoreLeft hk hs hsu hu
  obtain ⟨x, rfl, hx⟩ := hcontained.exists_succeeds_oneOrMore hrepeats hf.stays hne hcap
  have hstart := Span.Shows.start_eq (w := b ++ t) (by rwa [List.append_assoc]) hs hsu
  exact ⟨x, s, hx, hvalues, hsu, hstart⟩

end Lists

/-! ## Words of a language as elements -/

section Elements

variable {α β : Type} {renders : List Char → α → Prop} {value : α → Datum} {p : Parser}
  {E : Halt → Prop} {top : Span} {cs : Array Char} {L : Language Char}

/-- The words of a language without blanks are elements of a parser that reads longest words. -/
theorem elements_words (htop : top.source.content = .text cs) (hp : p.ReadsLongest top L)
    (hlex : p.Lexes E top L) (hnil : [] ∉ L)
    (hover : Text.Over (fun c => Character.isBlank c = false) L) :
    p.Elements top (fun w v => w = v ∧ v ∈ L) Datum.text where
  starts := by
    rintro w _ ⟨rfl, hw⟩
    cases w with
    | nil => exact absurd hw hnil
    | cons c v => exact ⟨c, v, rfl, hover _ hw c List.mem_cons_self⟩
  yields := by
    rintro r w _ u hr ht ⟨rfl, hw⟩ hu
    have hend : ∀ c ∈ u.head?, ∀ v, w ++ c :: v ∉ L := by
      intro c hc v hv
      have hblank : Character.isBlank c = false :=
        hover _ hv c (List.mem_append_right w List.mem_cons_self)
      rw [hu c hc] at hblank
      cases hblank
    obtain ⟨x, h, hx⟩ := hp.exists_succeeds htop hr ht hw hend
    exact ⟨_, (Span.Within.refl r).drop w.length h, ht.drop_append,
      hlex.yields (hr.content_eq htop) ht hx⟩
  fails := fun hr ht => hp.exists_fails htop hr ht hnil

/-- Elements to whose values a function is applied. -/
theorem Elements.lift (hp : p.Elements top renders value) {renders' : List Char → β → Prop}
    {value' : β → Datum} {f : Datum → Except Fault Datum}
    (h : ∀ w b, renders' w b → ∃ a, renders w a ∧ f (value a) = .ok (value' b)) :
    (p.lift f).Elements top renders' value' where
  starts := by
    intro w b hb
    obtain ⟨a, ha, -⟩ := h w b hb
    exact hp.starts ha
  yields := by
    intro r w b u hr ht hb hu
    obtain ⟨a, ha, hf⟩ := h w b hb
    obtain ⟨s, hs, hsu, hy⟩ := hp.yields hr ht ha hu
    exact ⟨s, hs, hsu, hy.lift hf⟩
  fails := by
    intro r hr ht
    obtain ⟨g, hg⟩ := hp.fails hr ht
    exact ⟨g, hg.lift f⟩

theorem Elements.describe (hp : p.Elements top renders value) (description : Option String) :
    (p.describe description).Elements top renders value :=
  ⟨hp.starts, hp.yields, hp.fails⟩

end Elements

/-! ## Reading to the end -/

/-- The values of `p` up to the end of a window are `ds`, if the window shows `t` behind blanks `b`.
If there are blanks behind `t` as well, the first of them is unexpected. -/
def ReadsToEnd (p : Parser) (r : Span) (view b t : List Char) (ds : List Datum) : Prop :=
  (view = b ++ t → (p.valuesToEnd r).result = .ok (.ok ds)) ∧
  ∀ c u, view = b ++ t ++ c :: u → Text.Blanks (c :: u) → (p.valuesToEnd r).result
    = .ok (.error
        { reason := .unexpected (Datum.char c), message := "unexpected " ++ (Datum.char c).render
          position := some ↑(r.start + (b ++ t).length) })

end Parser

namespace Grammar

variable {names : Names} {cap : Int} {depth : Nat} {top : Span} {cs : Array Char}
  (htop : top.source.content = .text cs) (hcap : top.length < cap)

/-- A class of characters accepts the characters that belong to it. -/
theorem accepts_textClass {member : List Char → Bool} {P : Char → Bool}
    (h : ∀ c, member [c] = P c) (description : String) :
    ∃ accepts, textClass member description = .satisfy accepts description ∧
      ∀ c, accepts (Datum.char c) = .ok (decide (P c = true)) := by
  refine ⟨_, rfl, fun c => congrArg Except.ok ?_⟩
  rw [h, Bool.decide_eq_true]

include hcap in
/-- A repetition of blanks skips them all. -/
theorem skipsBlanks_space :
    ((Grammar.zeroOrMore space none).parserIn names cap depth).SkipsBlanks top := by
  intro r b u hr ht hb hu
  have hclass (c : Char) : Text.isBlank [c] = Character.isBlank c := Bool.and_true _
  obtain ⟨accepts, heq, haccepts⟩ := accepts_textClass hclass "space"
  have hlength : (b.length : Int) ≤ cap := by
    have := hr.length_le
    have := ht.length_eq
    rw [List.length_append] at this
    omega
  unfold space
  rw [heq]
  exact Parser.exists_succeeds_zeroOrMore "space" haccepts hu ht hb hlength

include htop hcap

/-- A list of elements is read to the end, unless there are blanks behind it. -/
theorem readsToEnd_spaced {α : Type} {renders : List Char → α → Prop} {value : α → Datum}
    {g : Grammar} (hg : (g.parserIn names cap depth).Elements top renders value) {b t : List Char}
    {as : List α} (hb : Text.Blanks b) (ht : Text.Listing renders t as) :
    ((spaced g).parserIn names cap depth).ReadsToEnd top (cs.extract top.start top.stop).toList b t
      (as.map value) := by
  have hshows : top.Shows (cs.extract top.start top.stop).toList := Span.shows_extract htop
  let element : Grammar := .ignoreLeft (.zeroOrMore space none) g
  have hcontained : (element.parserIn names cap depth).Contained :=
    element.contained_parserIn names cap depth
  have hread (u : List Char) (hview : (cs.extract top.start top.stop).toList = b ++ t ++ u)
      (hu : Text.Blanks u) : ∃ x s, ((spaced g).parserIn names cap depth).Succeeds top x s ∧
        x.values = as.map value ∧ s.Shows u ∧ s.start = top.start + (b ++ t).length := by
    rw [hview, List.append_assoc] at hshows
    exact hg.exists_succeeds_oneOrMore (skipsBlanks_space hcap) hcontained hcap ht hshows hb hu
  constructor
  · intro hview
    obtain ⟨x, s, hx, hvalues, hsu, -⟩ := hread [] (by rw [hview, List.append_nil]) nofun
    have hend := (hx.andThen (Parser.succeeds_done hsu)).values_eq
    have hnone : (Results.single (.empty s)).values = [] := rfl
    rw [Results.values_append, hvalues, hnone, List.append_nil] at hend
    exact hend
  · intro c u hview hu
    obtain ⟨x, s, hx, -, hsu, hstart⟩ := hread (c :: u) hview hu
    rw [← hstart]
    exact (hx.andThen_fails (Parser.fails_done hsu rfl)).values_eq

/-! ## Numbers and words -/

/-- Natural numbers are elements. -/
theorem elements_natural [Monoids] (base : Nat) :
    ((natural base).parserIn names cap depth).Elements top
      (fun w v => Number.Denotes base w v ∧ w.length ≤ 4300) fun v => .int v := by
  have hread : ((digits base).parserIn names cap depth).ReadsLongest top (Number.naturals base) :=
    readsLongest_digits htop (Int.le_of_lt hcap) base
  have hlex : ((digits base).parserIn names cap depth).Lexes (fun _ => False) top
      (Number.naturals base) := lexes_digits htop base
  have hdigits := Parser.elements_words htop hread hlex (Number.nil_notMem_naturals base)
    ((Number.over_naturals base).mono fun _ hc => hc.isBlank_eq_false)
  have hnumbers : (((digits base).parserIn names cap depth).lift (Datum.toIntIn base)).Elements top
      (fun w v => Number.Denotes base w v ∧ w.length ≤ 4300) fun v => .int v := by
    refine hdigits.lift fun w v hw => ⟨w, ⟨rfl, hw.1.mem_naturals⟩, ?_⟩
    exact Datum.toIntIn_of_denotes (s := []) (Or.inl rfl) hw.1 (Or.inr hw.2)
  exact hnumbers.describe _

/-- Integers are elements. -/
theorem elements_integer [Monoids] :
    (integer.parserIn names cap depth).Elements top Number.Signed Datum.int := by
  have hread : (signedDigits.parserIn names cap depth).ReadsLongest top Number.integers :=
    readsLongest_signedDigits htop (Int.le_of_lt hcap)
  have hlex : (signedDigits.parserIn names cap depth).Lexes (fun _ => False) top Number.integers :=
    lexes_signedDigits htop
  have hover : Text.Over (fun c => Character.isBlank c = false) Number.integers := by
    refine Number.over_integers.mono fun c hc => ?_
    rcases hc with hc | hc
    · exact hc.isBlank_eq_false
    · have hsigns : ∀ c ∈ ['+', '-'], Character.isBlank c = false :=
        List.all_iff_forall_prop.1 (by decide)
      exact hsigns c hc
  have hdigits := Parser.elements_words htop hread hlex Number.nil_notMem_integers hover
  have hnumbers : ((signedDigits.parserIn names cap depth).lift Datum.toInt).Elements top
      Number.Signed Datum.int :=
    hdigits.lift fun w n hw => ⟨w, ⟨rfl, hw.mem_integers⟩, hw.toInt_eq⟩
  exact hnumbers.describe _

/-- Words are elements. -/
theorem elements_word [Monoids] :
    (word.parserIn names cap depth).Elements top
      (fun w v => w = v ∧ v ∈ Text.stretches fun c => Character.isLetter c = true) Datum.text := by
  have hclass (c : Char) : Text.isLetters [c] = Character.isLetter c := Bool.and_true _
  obtain ⟨accepts, heq, haccepts⟩ := accepts_textClass hclass "letter"
  have hletters : ((Parser.satisfy accepts "letter").oneOrMore cap none).ReadsLongest top
      (Text.stretches fun c => Character.isLetter c = true) :=
    Parser.readsLongest_oneOrMore htop haccepts (Int.le_of_lt hcap)
  have hnil := Text.nil_notMem_stretches fun c => Character.isLetter c = true
  have hword := Parser.elements_words htop (hletters.reduce htop)
    (hletters.toReads.lexes_reduce htop hnil) hnil
    fun w hw c hc => Character.isBlank_eq_false_of_isLetter (hw.2 c hc)
  unfold word letter
  rw [heq]
  exact hword.describe _

omit htop hcap

/-- **Spaced lists are read back.**  Let a window on a text show any number of blanks and then a
list of one or more elements, with one or more blanks between one and the next, and let the cap be
greater than the length of the window.  The elements may be natural numbers of a base, integers with
a sign or without one, each rendered as any numeral of it with at most 4300 digits, or words of
letters.  The grammar of such a list, read to the end, gives exactly the elements.  If there are
blanks behind the last element, they are unexpected, at the place where that element ends. -/
theorem valuesToEnd_spaced [Monoids] (names : Names) {cap : Int} (depth : Nat) {r : Span}
    {cs : Array Char} (hr : r.source.content = .text cs) (hcap : r.length < cap) {b t : List Char}
    (hb : Text.Blanks b) :
    let view := (cs.extract r.start r.stop).toList
    (∀ (base : Nat) (vs : List Nat),
      Text.Listing (fun w v => Number.Denotes base w v ∧ w.length ≤ 4300) t vs →
      ((naturals base).parserIn names cap depth).ReadsToEnd r view b t
        (vs.map fun v : Nat => .int v)) ∧
    (∀ ns : List Int, Text.Listing Number.Signed t ns →
      (integers.parserIn names cap depth).ReadsToEnd r view b t (ns.map .int)) ∧
    (∀ ws : List (List Char),
      Text.Listing (fun w v => w = v ∧ v ∈ Text.stretches fun c => Character.isLetter c = true)
        t ws →
      (words.parserIn names cap depth).ReadsToEnd r view b t (ws.map .text)) := by
  intro view
  refine ⟨fun base vs ht => ?_, fun ns ht => ?_, fun ws ht => ?_⟩
  · exact readsToEnd_spaced hr hcap (elements_natural hr hcap base) hb ht
  · exact readsToEnd_spaced hr hcap (elements_integer hr hcap) hb ht
  · exact readsToEnd_spaced hr hcap (elements_word hr hcap) hb ht

/-- The case of two integers, with a blank behind them and without it. -/
theorem valuesToEnd_spaced_integers :
    let _ : Monoids := .none
    let cs := " +7  -05 ".toList.toArray
    let window (i : Nat) (h : i ≤ 9) : Span :=
      { source := .ofText " +7  -05 ".toList, start := 0, stop := i,
        start_le_stop := Nat.zero_le i, stop_le_size := h }
    let p := integers.parserIn (fun _ => none) 10 0
    Text.Blanks [' '] ∧ Text.Listing Number.Signed "+7  -05".toList [7, -5] ∧
      (∀ i h, (window i h).source.content = .text cs ∧ (window i h).length < (10 : Int)) ∧
      (p.valuesToEnd (window 8 (by decide))).result = .ok (.ok [.int 7, .int (-5)]) ∧
      (p.valuesToEnd (window 9 (by decide))).result
        = .ok (.error { reason := .unexpected (Datum.char ' '), message := "unexpected ' '",
                        position := some 8 }) := by
  intro _ cs window p
  have hb : Text.Blanks [' '] := List.all_iff_forall_prop.1 (by decide)
  have hseven : Number.Denotes 10 ['7'] 7 :=
    ⟨List.cons_ne_nil _ _, [7], .cons ⟨by decide, by decide⟩ .nil, by decide⟩
  have hfive : Number.Denotes 10 ['0', '5'] 5 :=
    ⟨List.cons_ne_nil _ _, [0, 5],
      .cons ⟨by decide, by decide⟩ (.cons ⟨by decide, by decide⟩ .nil), by decide⟩
  have hblanks : Text.Blanks [' ', ' '] := List.all_iff_forall_prop.1 (by decide)
  have ht : Text.Listing Number.Signed "+7  -05".toList [7, -5] :=
    .more (Number.Signed.plus hseven (by decide)) (List.cons_ne_nil _ _) hblanks
      (.last (Number.Signed.minus hfive (by decide)))
  have hcap (i : Nat) (h : i ≤ 9) : (window i h).length < (10 : Int) :=
    Int.ofNat_lt.2 (Nat.lt_succ_of_le h)
  have hlists (i : Nat) (h : i ≤ 9) :=
    (valuesToEnd_spaced (fun _ => none) 0 (rfl : (window i h).source.content = .text cs) (hcap i h)
      hb).2.1 [7, -5] ht
  refine ⟨hb, ht, fun i h => ⟨rfl, hcap i h⟩, (hlists 8 _).1 (by decide), ?_⟩
  exact (hlists 9 _).2 ' ' [] (by decide) hb

end Grammar

end TokenGrammar
