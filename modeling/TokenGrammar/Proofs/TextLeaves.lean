/-
# Ready-made grammars on texts

Applied to a text, the ready-made grammars give results.  The one exception are numerals that pass
for integers and are not converted.
-/
import TokenGrammar.Rule
import TokenGrammar.Proofs.Digits
import TokenGrammar.Proofs.Reading

namespace TokenGrammar

/-! ## Conversion -/

namespace Datum

/-- Behind a sign, or without one, a numeral is converted exactly if it is convertible. -/
theorem exists_toIntIn_iff {base : Nat} {s w : List Char} (hs : s ∈ 1 + Number.signs)
    (hw : w ∈ Number.naturals base) :
    (∃ v, toIntIn base (.text (s ++ w)) = .ok v) ↔ Number.Convertible base w := by
  rw [← Number.isSome_readInt?_iff hs hw, toIntIn]
  cases Number.readInt? base (s ++ w) with
  | none => exact ⟨nofun, nofun⟩
  | some n => exact ⟨fun _ => rfl, fun _ => ⟨_, rfl⟩⟩

/-- A text that is not converted is a bad value. -/
theorem eq_badValue_of_toIntIn {base : Nat} {w : List Char} {cause : Fault}
    (h : toIntIn base (.text w) = .error cause) : cause = .badValue := by
  rw [toIntIn] at h
  cases hread : Number.readInt? base w with
  | none =>
    rw [hread] at h
    cases h
    rfl
  | some n =>
    rw [hread] at h
    cases h

/-- A text that reads as a number converts to it. -/
theorem toFloat_of_readFloat? {w : List Char} {x : Binary64} (h : Number.readFloat? w = some x) :
    toFloat (.text w) = .ok (.float x) := by
  rw [toFloat, h]
  rfl

/-- Every decimal number converts. -/
theorem exists_toFloat {w : List Char} (hw : w ∈ Number.decimals) :
    ∃ v, toFloat (.text w) = .ok v := by
  obtain ⟨x, hx⟩ := Option.isSome_iff_exists.1 (Number.isSome_readFloat? hw)
  exact ⟨.float x, toFloat_of_readFloat? hx⟩

/-- A character is equal to itself only. -/
theorem same_char_iff (c d : Char) : (char c).same (char d) = true ↔ [c] = [d] := by
  rw [char, char, same, beq_iff_eq]

end Datum

namespace Grammar

variable {names : Names} {cap : Int} {depth : Nat} {E : Halt → Prop} {top : Span} {cs : Array Char}
  (htop : top.source.content = .text cs)
include htop

/-! ## Numerals -/

/-- A digit is a numeral. -/
theorem lexes_digitIn (base : Nat) :
    ((digitIn base).parserIn names cap depth).Lexes E top (Number.naturals base) := by
  obtain ⟨accepts, description, heq, haccepts⟩ := exists_digitIn_eq base
  rw [heq]
  refine (Parser.lexes_satisfy htop fun c => ⟨_, haccepts c⟩).mono ?_
  rintro _ ⟨c, rfl, hc⟩
  rw [haccepts] at hc
  refine ⟨List.cons_ne_nil c [], List.forall_mem_singleton.2 ?_⟩
  exact of_decide_eq_true (Except.ok.inj hc)

/-- Digits are a numeral. -/
theorem lexes_digits [Monoids] (base : Nat) :
    ((digits base).parserIn names cap depth).Lexes E top (Number.naturals base) := by
  have hone : ((digitIn base).parserIn names cap depth).Lexes E top (Number.naturals base) :=
    lexes_digitIn htop base
  have hmany := (hone.toReads.oneOrMore cap none).mono fun _ => Number.mem_naturals_of_mem_kstar
  exact (hmany.lexes_reduce htop (Number.nil_notMem_naturals base)).describe _

/-- A token for one character reads that character. -/
theorem reads_token (c : Char) :
    ((token (Datum.char c)).parserIn names cap depth).Reads E top {[c]} := by
  refine (Parser.lexes_satisfy htop fun _ => ⟨_, rfl⟩).toReads.mono ?_
  rintro _ ⟨d, rfl, hd⟩
  exact (Datum.same_char_iff d c).1 (Except.ok.inj hd)

/-- One of several characters is read as it stands. -/
theorem reads_oneOf (ds : List Char) {L : Language Char} (hL : ∀ d ∈ ds, [d] ∈ L) :
    ((oneOf (ds.map Datum.char)).parserIn names cap depth).Reads E top L := by
  refine (Parser.lexes_satisfy htop fun _ => ⟨_, rfl⟩).toReads.mono ?_
  rintro _ ⟨c, rfl, hc⟩
  obtain ⟨t, ht, hsame⟩ := List.any_eq_true.1 (Except.ok.inj hc)
  obtain ⟨d, hd, rfl⟩ := List.mem_map.1 ht
  rw [(Datum.same_char_iff c d).1 hsame]
  exact hL d hd

/-- Digits with or without a sign are an integer. -/
theorem lexes_signedDigits [Monoids] :
    (signedDigits.parserIn names cap depth).Lexes E top Number.integers := by
  have hsign : (sign.parserIn names cap depth).Reads E top Number.signs :=
    reads_oneOf htop ['+', '-']
      (List.forall_mem_cons.2 ⟨Or.inl rfl, List.forall_mem_singleton.2 (Or.inr rfl)⟩)
  have hnil : [] ∉ Number.signs * Number.naturals 10 := fun h =>
    Number.nil_notMem_integers (Or.inr h)
  have hdigits : ((digits 10).parserIn names cap depth).Lexes E top (Number.naturals 10) :=
    lexes_digits htop 10
  exact hdigits.orElse ((hsign.andThen hdigits.toReads).lexes_reduce htop hnil)

/-- What is read of a decimal number before it is converted. -/
def decimal [Monoids] : Grammar :=
  ((signedDigits.andThen (fraction.optional (some (.text [])))).andThen
    (exponent.optional (some (.text [])))).reduce

/-- The pattern of decimal numbers yields decimal numbers. -/
theorem lexes_decimal [Monoids] :
    (decimal.parserIn names cap depth).Lexes E top Number.decimals := by
  have hinteger : (signedDigits.parserIn names cap depth).Lexes E top Number.integers :=
    lexes_signedDigits htop
  have hfraction : (fraction.parserIn names cap depth).Reads E top Number.fractions :=
    ((reads_token htop '.').andThen (lexes_digits htop 10).toReads).reduce htop
  have hmark : ((oneOf (['e', 'E'].map Datum.char)).parserIn names cap depth).Reads E top
      {['e'], ['E']} :=
    reads_oneOf htop ['e', 'E']
      (List.forall_mem_cons.2 ⟨Or.inl rfl, List.forall_mem_singleton.2 (Or.inr rfl)⟩)
  have hexponent : (exponent.parserIn names cap depth).Reads E top Number.exponents :=
    (hmark.andThen hinteger.toReads).reduce htop
  -- what is absent is read as an empty text
  have hnumber := (hinteger.toReads.andThen
    (hfraction.optional Parser.reads_succeed_nil)).andThen
      (hexponent.optional Parser.reads_succeed_nil)
  exact hnumber.lexes_reduce htop
    (Number.nil_notMem_mul (Number.nil_notMem_mul Number.nil_notMem_integers))

/-! ## Grammars that convert no integers -/

/-- A class of texts yields some text. -/
theorem lexes_textClass (member : List Char → Bool) (description : String) :
    ((textClass member description).parserIn names cap depth).Lexes E top ⊤ :=
  (Parser.lexes_satisfy htop fun _ => ⟨_, rfl⟩).mono fun _ _ => trivial

/-- One of several characters is some text. -/
theorem lexes_among (ds : List Char) (description : String) :
    ((among ds description).parserIn names cap depth).Lexes E top ⊤ :=
  (Parser.lexes_satisfy htop fun _ => ⟨_, rfl⟩).mono fun _ _ => trivial

/-- A token yields some text. -/
theorem lexes_token (t : Datum) : ((token t).parserIn names cap depth).Lexes E top ⊤ :=
  (Parser.lexes_satisfy htop fun _ => ⟨_, rfl⟩).mono fun _ _ => trivial

/-- Blanks around a grammar do not make it halt. -/
theorem haltsOnly_spaced {g : Grammar} (hg : (g.parserIn names cap depth).HaltsOnly E top) :
    ((spaced g).parserIn names cap depth).HaltsOnly E top :=
  (((lexes_textClass htop _ _).haltsOnly.zeroOrMore cap).ignoreLeft hg).oneOrMore cap none

/-- A word does not make a parse halt. -/
theorem haltsOnly_word [Monoids] : (word.parserIn names cap depth).HaltsOnly E top :=
  (((lexes_textClass htop _ _).toReads.oneOrMore cap none).reduce htop).haltsOnly

/-- A decimal number does not make a parse halt: every one converts. -/
theorem haltsOnly_floating [Monoids] : (floating.parserIn names cap depth).HaltsOnly E top := by
  refine (lexes_decimal htop).haltsOnly_lift htop fun w hw _ cause hcause => ?_
  obtain ⟨v, hv⟩ := Datum.exists_toFloat hw
  cases hv.symm.trans hcause

/-- Tokens in sequence yield some text. -/
theorem reads_sequence (t : Datum) (ts : List Datum) :
    (((token t).sequence (ts.map token)).parserIn names cap depth).Reads E top ⊤ := by
  induction ts generalizing t with
  | nil => exact (lexes_token htop t).toReads
  | cons u ts ih => exact ((lexes_token htop t).toReads.andThen (ih u)).mono fun _ _ => trivial

/-- A given text does not make a parse halt. -/
theorem haltsOnly_string [Monoids] {s : Datum} {g : Grammar} (h : string s = .ok g) :
    (g.parserIn names cap depth).HaltsOnly E top := by
  obtain ⟨first, more, rfl⟩ := exists_eq_joined h
  exact ((reads_sequence htop first more).reduce htop).haltsOnly

/-! ## Grammars that convert integers -/

omit htop

/-- The reason for halting is a numeral in view that passes for a natural number of the base, if
there is a base, and is not converted. -/
def Unconverted (base? : Option Nat) (view : List Char) (e : Halt) : Prop :=
  e = .fault .badValue ∧ ∃ base ∈ base?, ∃ w ∈ Number.naturals base,
    w <:+: view ∧ ¬ Number.Convertible base w

/-- What cannot be converted is reported alike out of an iteration. -/
theorem Unconverted.enclosed {base? : Option Nat} {view : List Char} {e : Halt}
    (h : Unconverted base? view e) : Unconverted base? view e.enclosed := by
  obtain ⟨rfl, hnumeral⟩ := h
  exact ⟨rfl, hnumeral⟩

/-- A numeral that is not converted stands behind the sign. -/
theorem unconverted_of_toIntIn {base : Nat} {view s w : List Char} {cause : Fault}
    (hs : s ∈ 1 + Number.signs) (hw : w ∈ Number.naturals base) (hview : s ++ w <:+: view)
    (h : Datum.toIntIn base (.text (s ++ w)) = .error cause) :
    Unconverted (some base) view (.fault cause) := by
  have hinfix : w <:+: view := (List.suffix_append s w).isInfix.trans hview
  refine ⟨congrArg Halt.fault (Datum.eq_badValue_of_toIntIn h), base, rfl, w, hw, hinfix, ?_⟩
  intro hconvertible
  obtain ⟨v, hv⟩ := (Datum.exists_toIntIn_iff hs hw).2 hconvertible
  cases hv.symm.trans h

/-- What reads a natural number either goes on from the number that it denotes or halts because it
is not convertible. -/
theorem exists_result_toIntIn_iff {p : Parser} {base : Nat}
    (hp : p.Lexes E top (Number.naturals base)) {r s : Span} {x : Results}
    (hr : r.source.content = .text cs) (hx : p.Succeeds r x s) :
    (∃ y, ((p.lift (Datum.toIntIn base)).parse r).result = .ok y) ↔
      Number.Convertible base (cs.extract r.start s.start).toList :=
  (hp.exists_result_lift_iff hr hx).trans
    (Datum.exists_toIntIn_iff (s := []) (Or.inl rfl) (hp.mem hr hx))

include htop

/-- The conversion to an integer halts on numerals that cannot be converted. -/
theorem haltsOnly_toIntIn {p : Parser} {base : Nat}
    (hp : p.Lexes (Unconverted (some base) (cs.extract top.start top.stop).toList) top
      (Number.naturals base)) :
    (p.lift (Datum.toIntIn base)).HaltsOnly
      (Unconverted (some base) (cs.extract top.start top.stop).toList) top :=
  hp.haltsOnly_lift htop fun _ hw hview _ hcause =>
    (unconverted_of_toIntIn (s := []) (Or.inl rfl) hw hview hcause).enclosed

/-- The value of a digit halts on digits that cannot be converted. -/
theorem haltsOnly_digitValue (base : Nat) :
    ((digitValue base).parserIn names cap depth).HaltsOnly
      (Unconverted (some base) (cs.extract top.start top.stop).toList) top :=
  haltsOnly_toIntIn htop (lexes_digitIn htop base)

/-- A natural number halts on numerals that cannot be converted. -/
theorem haltsOnly_natural [Monoids] (base : Nat) :
    ((natural base).parserIn names cap depth).HaltsOnly
      (Unconverted (some base) (cs.extract top.start top.stop).toList) top :=
  (haltsOnly_toIntIn htop (lexes_digits htop base)).describe _

/-- An integer halts on numerals that cannot be converted. -/
theorem haltsOnly_integer [Monoids] :
    (integer.parserIn names cap depth).HaltsOnly
      (Unconverted (some 10) (cs.extract top.start top.stop).toList) top := by
  refine (lexes_signedDigits htop).haltsOnly_lift htop fun w hw hview cause hcause => ?_
  obtain ⟨s, hs, ds, hds, rfl⟩ := Number.exists_of_mem_integers hw
  exact (unconverted_of_toIntIn hs hds hview hcause).enclosed

end Grammar

/-! ## Parses of texts -/

/-- The base in which a grammar converts integers, if it does. -/
def PlainLeaf.integerBase? : PlainLeaf → Option Nat
  | .integer | .integers => some 10
  | _ => none

/-- The base in which a leaf converts what it has read to an integer, if it does. -/
def BaseLeaf.integerBase? (base : Nat) : BaseLeaf → Option Nat
  | .digits => none
  | _ => some base

namespace Grammar

/-- The ready-made grammars for texts, with the base in which they convert integers. -/
inductive TextLeaf [Monoids] : Grammar → Option Nat → Prop where
  | plain (leaf : PlainLeaf) : TextLeaf (Rule.plainGrammar leaf) leaf.integerBase?
  | based (base : Nat) (leaf : BaseLeaf) :
    TextLeaf (Rule.baseGrammar base leaf) (leaf.integerBase? base)
  | token (t : Datum) : TextLeaf (.token t) none
  | characters (t : Datum) (bound : Option Bound) : TextLeaf (.characters t bound) none
  | string {s : Datum} {g : Grammar} (h : Grammar.string s = .ok g) : TextLeaf g none

/-- A leaf without parameters halts on what it cannot convert. -/
theorem haltsOnly_plain [Monoids] (htop : top.source.content = .text cs) (leaf : PlainLeaf) :
    ((Rule.plainGrammar leaf).parserIn names cap depth).HaltsOnly
      (Unconverted leaf.integerBase? (cs.extract top.start top.stop).toList) top := by
  cases leaf with
  | item => exact Parser.haltsOnly_satisfy htop fun _ => ⟨_, rfl⟩
  | empty => exact Parser.haltsOnly_empty
  | done => exact Parser.haltsOnly_done htop
  | letter | lower | space | upper => exact (lexes_textClass htop _ _).haltsOnly
  | digit => exact (lexes_digitIn htop 10).haltsOnly
  | floating => exact haltsOnly_floating htop
  | floatings => exact haltsOnly_spaced htop (haltsOnly_floating htop)
  | hexDigit | punctuation => exact (lexes_among htop _ _).haltsOnly
  | integer => exact haltsOnly_integer htop
  | integers => exact haltsOnly_spaced htop (haltsOnly_integer htop)
  | skipSpaces => exact ((lexes_textClass htop _ _).haltsOnly.zeroOrMore cap).ignore
  | spaces => exact (lexes_textClass htop _ _).haltsOnly.oneOrMore cap none
  | word => exact haltsOnly_word htop
  | words => exact haltsOnly_spaced htop (haltsOnly_word htop)

/-- A leaf that reads text halts on what it cannot convert. -/
theorem TextLeaf.haltsOnly [Monoids] {g : Grammar} {base? : Option Nat} (hg : TextLeaf g base?)
    (htop : top.source.content = .text cs) :
    (g.parserIn names cap depth).HaltsOnly
      (Unconverted base? (cs.extract top.start top.stop).toList) top := by
  cases hg with
  | plain leaf => exact haltsOnly_plain htop leaf
  | based base leaf =>
    cases leaf with
    | digits => exact (lexes_digits htop base).haltsOnly
    | digitValue => exact haltsOnly_digitValue htop base
    | digitValues => exact haltsOnly_spaced htop (haltsOnly_digitValue htop base)
    | natural => exact haltsOnly_natural htop base
    | naturals => exact haltsOnly_spaced htop (haltsOnly_natural htop base)
  | token t => exact (lexes_token htop t).haltsOnly
  | characters t bound => exact (lexes_token htop t).haltsOnly.oneOrMore cap bound
  | string h => exact haltsOnly_string htop h

/-- **Text leaves are total, but for numerals that cannot be converted.**  On a window of a text a
ready-made grammar gives results, unless it converts integers and some numeral in view passes for
one and is not convertible: the Kelvin sign stands in it, or it is too long for its base.  The
grammars of a digit, a natural number and an integer halt on every such numeral that they read, and
on no other. -/
theorem parse_textLeaf [Monoids] (names : Names) (cap : Int) (depth : Nat) {r : Span}
    {cs : Array Char} (hr : r.source.content = .text cs) :
    (∀ g base?, TextLeaf g base? →
      (∃ x, ((g.parserIn names cap depth).parse r).result = .ok x) ∨
      (((g.parserIn names cap depth).parse r).result = .error (.fault .badValue) ∧
        ∃ base ∈ base?, ∃ w ∈ Number.naturals base,
          w <:+: (cs.extract r.start r.stop).toList ∧ ¬ Number.Convertible base w)) ∧
    (∀ base x s, ((digitIn base).parserIn names cap depth).Succeeds r x s →
      ((∃ y, (((digitValue base).parserIn names cap depth).parse r).result = .ok y) ↔
        Number.Convertible base (cs.extract r.start s.start).toList)) ∧
    (∀ base x s, ((digits base).parserIn names cap depth).Succeeds r x s →
      ((∃ y, (((natural base).parserIn names cap depth).parse r).result = .ok y) ↔
        Number.Convertible base (cs.extract r.start s.start).toList)) ∧
    (∀ x s, (signedDigits.parserIn names cap depth).Succeeds r x s →
      ∃ u ∈ 1 + Number.signs, ∃ w ∈ Number.naturals 10,
        u ++ w = (cs.extract r.start s.start).toList ∧
        ((∃ y, ((integer.parserIn names cap depth).parse r).result = .ok y) ↔
          Number.Convertible 10 w)) := by
  refine ⟨fun g base? hg => ?_, fun base x s hx => ?_, fun base x s hx => ?_, fun x s hx => ?_⟩
  · have hends : ((g.parserIn names cap depth).parse r).Meets
        (Unconverted base? (cs.extract r.start r.stop).toList) (Results.Regular r) :=
      hg.haltsOnly hr r (.refl r)
    rcases hends.ok_or_error with ⟨x, hx, -⟩ | ⟨e, he, rfl, hunconverted⟩
    · exact Or.inl ⟨x, hx⟩
    · exact Or.inr ⟨he, hunconverted⟩
  · exact exists_result_toIntIn_iff (E := fun _ => False) (lexes_digitIn hr base) hr hx
  · exact exists_result_toIntIn_iff (E := fun _ => False) (lexes_digits hr base) hr hx
  · have hlex : (signedDigits.parserIn names cap depth).Lexes (fun _ => False) r
        Number.integers := lexes_signedDigits hr
    obtain ⟨u, hu, w, hw, huw⟩ := Number.exists_of_mem_integers (hlex.mem hr hx)
    refine ⟨u, hu, w, hw, huw, (hlex.exists_result_lift_iff hr hx).trans ?_⟩
    rw [← huw]
    exact Datum.exists_toIntIn_iff hu hw

/-- The case of a natural number in base 36. -/
theorem parse_textLeaf_natural :
    let _ : Monoids := .none
    let names : Names := fun _ => none
    let r : Span := .whole (.ofText ['7', 'k'])
    let s : Span := r.drop 2 (by decide)
    let x : Results := .single (.value (.text ['7', 'k']) s)
    r.source.content = .text #['7', 'k'] ∧
      ((digits 36).parserIn names 9 0).Succeeds r x s ∧ Number.Convertible 36 ['7', 'k'] ∧
      ∃ y, (((natural 36).parserIn names 9 0).parse r).result = .ok y := by
  intro _ names r s x
  have hr : r.source.content = .text #['7', 'k'] := rfl
  have hx : ((digits 36).parserIn names 9 0).Succeeds r x s := ⟨rfl, rfl, rfl⟩
  have hconvertible : Number.Convertible 36 ['7', 'k'] := ⟨by decide, by decide⟩
  exact ⟨hr, hx, hconvertible, ((parse_textLeaf names 9 0 hr).2.2.1 36 x s hx).2 hconvertible⟩

/-- The Kelvin sign passes for a natural number in base 36 and is no integer. -/
theorem natural_kelvin :
    let _ : Monoids := .none
    let names : Names := fun _ => none
    let r : Span := .whole (.ofText [Number.kelvin])
    (∃ x s, ((digits 36).parserIn names 9 0).Succeeds r x s) ∧
      (((natural 36).parserIn names 9 0).parse r).result = .error (.fault .badValue) := by
  have hdigits : ((((@digits .none 36).parserIn (fun _ => none) 9 0).parse
      (.whole (.ofText [Number.kelvin]))).result.map Results.isSuccess) = .ok true := by
    decide +kernel
  have hnatural : ((((@natural .none 36).parserIn (fun _ => none) 9 0).parse
      (.whole (.ofText [Number.kelvin]))).result.map Results.isSuccess)
        = .error (.fault .badValue) := by
    decide +kernel
  intro _ names r
  constructor
  · cases hx : (((digits 36).parserIn names 9 0).parse r).result with
    | error e =>
      rw [hx] at hdigits
      cases hdigits
    | ok x =>
      rw [hx] at hdigits
      exact ⟨x, Parser.exists_succeeds hx (Except.ok.inj hdigits)⟩
  · cases hx : (((natural 36).parserIn names 9 0).parse r).result with
    | error e =>
      rw [hx] at hnatural
      exact congrArg Except.error (Except.error.inj hnatural)
    | ok x =>
      rw [hx] at hnatural
      cases hnatural

end Grammar

end TokenGrammar
