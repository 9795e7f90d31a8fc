/-
# Decimal numbers

The usual way to write a decimal number, as a regular expression, and the grammar that reads it.  A
number is read as far as it goes: a point, an exponent mark or a sign behind it that no digits
follow is left where it stands, and what is read is the longest number that the text begins with.
-/
import Mathlib.Computability.RegularExpressions
import Mathlib.Data.Bool.AllAny
import TokenGrammar.Proofs.LongestWords
import TokenGrammar.Proofs.TextLeaves

namespace TokenGrammar

/-! ## The way decimal numbers are written -/

namespace Number

/-- One of several characters. -/
def anyOf (cs : List Char) : RegularExpression Char :=
  (cs.map RegularExpression.char).sum

/-- Digits from 0 to 9, one or more of them. -/
def digitsExpr : RegularExpression Char :=
  anyOf "0123456789".toList * (anyOf "0123456789".toList).star

/-- Digits behind a sign, which may be absent. -/
def integerExpr : RegularExpression Char :=
  (anyOf ['+', '-'] + 1) * digitsExpr

/-- Decimal numbers, `[+-]?D(.D)?([eE][+-]?D)?` where `D` stands for `[0-9]+`. -/
def decimalExpr : RegularExpression Char :=
  integerExpr * (.char '.' * digitsExpr + 1) * (anyOf ['e', 'E'] * integerExpr + 1)

/-- One of several characters, as an expression. -/
theorem matches'_anyOf (cs : List Char) : (anyOf cs).matches' = Text.singles (· ∈ cs) := by
  apply Language.ext
  intro w
  induction cs with
  | nil => exact ⟨nofun, fun ⟨_, _, h⟩ => nomatch h⟩
  | cons c cs ih =>
    have hsum : (anyOf (c :: cs)).matches' = {[c]} + (anyOf cs).matches' := rfl
    rw [hsum, Language.mem_add, ih]
    constructor
    · rintro (rfl | ⟨d, rfl, hd⟩)
      · exact ⟨c, rfl, List.mem_cons_self⟩
      · exact ⟨d, rfl, List.mem_cons_of_mem c hd⟩
    · rintro ⟨d, rfl, hd⟩
      rcases List.mem_cons.1 hd with rfl | hd
      · exact Or.inl rfl
      · exact Or.inr ⟨d, rfl, hd⟩

/-- In base 10 the characters that pass for digits are the digits from 0 to 9. -/
theorem digitLike_ten_iff_mem (c : Char) : DigitLike 10 c ↔ c ∈ "0123456789".toList :=
  have hall : ("0123456789".toList.all fun c => decide (c.toNat < 0x7f)) = true := by
    decide +kernel
  digitLike_iff_of_ascii (by decide) (P := fun c => c ∈ "0123456789".toList)
    (fun c hc => of_decide_eq_true (List.all_eq_true.1 hall c hc)) (by decide +kernel) c

/-- The expression of numerals matches the numerals. -/
theorem matches'_digitsExpr : digitsExpr.matches' = naturals 10 := by
  have hdigits : Text.singles (· ∈ "0123456789".toList) = Text.singles (DigitLike 10) := by
    apply congrArg
    funext c
    exact propext (digitLike_ten_iff_mem c).symm
  rw [digitsExpr, RegularExpression.matches'_mul, RegularExpression.matches'_star, matches'_anyOf,
    hdigits]
  exact (Text.stretches_eq (DigitLike 10)).symm

/-- A sign is a single character. -/
theorem signs_eq_singles : signs = Text.singles (· ∈ ['+', '-']) :=
  Text.pair_eq_singles '+' '-'

/-- The expression of integers matches the integers. -/
theorem matches'_integerExpr : integerExpr.matches' = integers := by
  rw [integerExpr, RegularExpression.matches'_mul, RegularExpression.matches'_add,
    RegularExpression.matches'_epsilon, matches'_anyOf, matches'_digitsExpr, ← signs_eq_singles,
    add_mul, one_mul, add_comm, integers]

/-- The expression describes the decimal numbers. -/
theorem matches'_decimalExpr : decimalExpr.matches' = decimals := by
  have hfractions : (RegularExpression.char '.' * digitsExpr).matches' = fractions := by
    rw [RegularExpression.matches'_mul, matches'_digitsExpr, RegularExpression.matches'_char,
      fractions]
  have hexponents : (anyOf ['e', 'E'] * integerExpr).matches' = exponents := by
    rw [RegularExpression.matches'_mul, matches'_integerExpr, matches'_anyOf,
      ← Text.pair_eq_singles, exponents]
  rw [decimalExpr, RegularExpression.matches'_mul, RegularExpression.matches'_mul,
    RegularExpression.matches'_add, RegularExpression.matches'_add, hfractions, hexponents,
    matches'_integerExpr, RegularExpression.matches'_epsilon, decimals]

/-! ## Where the parts of a number begin

No part of a number begins with a character that occurs in the parts before it, so that it is plain
where one part ends and the next one begins. -/

/-- Numerals consist of digits. -/
theorem over_naturals (base : Nat) : Text.Over (DigitLike base) (naturals base) :=
  fun _ hw => hw.2

/-- A sign has no other character in it than plus and minus. -/
theorem over_signs : Text.Over (· ∈ ['+', '-']) signs :=
  signs_eq_singles ▸ Text.over_singles _

/-- Integers consist of digits and signs. -/
theorem over_integers : Text.Over (fun c => DigitLike 10 c ∨ c ∈ ['+', '-']) integers := by
  have hdigits := (over_naturals 10).mono fun c hc => Or.inl (b := c ∈ ['+', '-']) hc
  exact hdigits.add ((over_signs.mono fun c hc => Or.inr hc).mul hdigits)

/-- The text of a point has no other character in it. -/
theorem over_point : Text.Over (· = '.') {['.']} :=
  Text.singles_eq '.' ▸ Text.over_singles _

/-- The mark of an exponent has no other character in it than its two letters. -/
theorem over_marks : Text.Over (· ∈ ['e', 'E']) {['e'], ['E']} :=
  Text.pair_eq_singles 'e' 'E' ▸ Text.over_singles _

/-- A sign is no digit. -/
theorem not_digitLike_of_sign : ∀ c ∈ ['+', '-'], ¬ DigitLike 10 c :=
  List.all_iff_forall_prop.1 (by decide)

/-- No numeral begins with a sign. -/
theorem apart_signs : Text.Apart signs (naturals 10) :=
  Text.apart_of_over over_signs (over_naturals 10).begins not_digitLike_of_sign

/-- No numeral begins with a point. -/
theorem apart_point : Text.Apart {['.']} (naturals 10) := by
  refine Text.apart_of_over over_point (over_naturals 10).begins ?_
  rintro _ rfl
  decide

/-- No integer begins with the mark of an exponent. -/
theorem apart_marks : Text.Apart {['e'], ['E']} integers := by
  have hdisjoint : ∀ c ∈ ['e', 'E'], ¬ (DigitLike 10 c ∨ c ∈ ['+', '-']) :=
    List.all_iff_forall_prop.1 (by decide)
  exact Text.apart_of_over over_marks over_integers.begins hdisjoint

/-- No fraction begins with a character that occurs in an integer. -/
theorem apart_fractions : Text.Apart integers (fractions + 1) := by
  have hbegins : Text.Begins (· = '.') (fractions + 1) :=
    (over_point.begins.mul nofun (naturals 10)).add .one
  refine Text.apart_of_over over_integers hbegins fun c hc => ?_
  rintro rfl
  revert hc
  decide

/-- No exponent begins with a character that occurs in the number before it. -/
theorem apart_exponents : Text.Apart (integers * (fractions + 1)) (exponents + 1) := by
  let P (c : Char) : Prop := (DigitLike 10 c ∨ c ∈ ['+', '-']) ∨ c = '.'
  have hinteger : Text.Over P integers := over_integers.mono fun c hc => Or.inl hc
  have hpoint : Text.Over P {['.']} := over_point.mono fun c hc => Or.inr hc
  have hdigits : Text.Over P (naturals 10) := (over_naturals 10).mono fun c hc => Or.inl (Or.inl hc)
  have hover : Text.Over P (integers * (fractions + 1)) :=
    hinteger.mul ((hpoint.mul hdigits).add .one)
  have hbegins : Text.Begins (· ∈ ['e', 'E']) (exponents + 1) :=
    (over_marks.begins.mul (fun h => h.elim nofun nofun) integers).add .one
  have hdisjoint : ∀ c ∈ ['e', 'E'], ¬ ((DigitLike 10 c ∨ c ∈ ['+', '-']) ∨ c = '.') :=
    List.all_iff_forall_prop.1 (by decide)
  exact Text.apart_of_over hover hbegins fun c hc hmark => hdisjoint c hmark hc

end Number

namespace Datum

/-- A character is equal to itself only. -/
theorem same_char (c d : Char) : (char c).same (char d) = decide (c = d) := by
  rw [Bool.eq_iff_iff, same_char_iff, List.singleton_inj, decide_eq_true_eq]

end Datum

/-! ## The grammar -/

namespace Grammar

variable {names : Names} {cap : Int} {depth : Nat} {top : Span} {cs : Array Char}
  (htop : top.source.content = .text cs)
include htop

/-- A token for one character reads it. -/
theorem readsLongest_token (d : Char) :
    ((token (Datum.char d)).parserIn names cap depth).ReadsLongest top {[d]} := by
  rw [← Text.singles_eq d]
  exact Parser.readsLongest_satisfy htop fun c => congrArg Except.ok (Datum.same_char c d)

/-- One of several tokens reads one of their characters. -/
theorem readsLongest_oneOf (ds : List Char) :
    ((oneOf (ds.map Datum.char)).parserIn names cap depth).ReadsLongest top
      (Text.singles (· ∈ ds)) := by
  refine Parser.readsLongest_satisfy htop fun c => congrArg Except.ok ?_
  rw [List.any_map, Bool.eq_iff_iff, decide_eq_true_eq, List.any_eq_true]
  simp only [Function.comp_apply, Datum.same_char, decide_eq_true_eq, exists_eq_right']

/-- Digits read the longest numeral. -/
theorem readsLongest_digits [Monoids] (hcap : top.length ≤ cap) (base : Nat) :
    ((digits base).parserIn names cap depth).ReadsLongest top (Number.naturals base) := by
  obtain ⟨accepts, description, heq, haccepts⟩ := exists_digitIn_eq base
  have hmany : ((Parser.satisfy accepts description).oneOrMore cap none).ReadsLongest top
      (Text.stretches (Number.DigitLike base)) :=
    Parser.readsLongest_oneOrMore htop haccepts hcap
  rw [digits, heq]
  exact (hmany.reduce htop).describe _

/-- Digits with or without a sign read the longest integer. -/
theorem readsLongest_signedDigits [Monoids] (hcap : top.length ≤ cap) :
    (signedDigits.parserIn names cap depth).ReadsLongest top Number.integers := by
  have hsign : (sign.parserIn names cap depth).ReadsLongest top Number.signs :=
    Number.signs_eq_singles ▸ readsLongest_oneOf htop ['+', '-']
  have hdigits : ((digits 10).parserIn names cap depth).ReadsLongest top (Number.naturals 10) :=
    readsLongest_digits htop hcap 10
  have hsigned := (hsign.andThen htop hdigits Number.apart_signs).reduce htop
  refine hdigits.orElse htop hsigned fun w hw v hv => ?_
  -- what begins with a digit does not begin with a sign
  obtain ⟨c, w, rfl⟩ := List.exists_cons_of_ne_nil hw.1
  have hbegins := Number.over_signs.begins.mul nofun (Number.naturals 10)
  exact absurd (hw.2 c List.mem_cons_self) (Number.not_digitLike_of_sign c (hbegins c _ hv))

/-- The pattern of decimal numbers reads the longest one. -/
theorem readsLongest_decimal [Monoids] (hcap : top.length ≤ cap) :
    (decimal.parserIn names cap depth).ReadsLongest top Number.decimals := by
  have hinteger : (signedDigits.parserIn names cap depth).ReadsLongest top Number.integers :=
    readsLongest_signedDigits htop hcap
  have hfraction : (fraction.parserIn names cap depth).ReadsLongest top Number.fractions :=
    ((readsLongest_token htop '.').andThen htop (readsLongest_digits htop hcap 10)
      Number.apart_point).reduce htop
  have hmark : ((oneOf (['e', 'E'].map Datum.char)).parserIn names cap depth).ReadsLongest top
      {['e'], ['E']} :=
    Text.pair_eq_singles 'e' 'E' ▸ readsLongest_oneOf htop ['e', 'E']
  have hexponent : (exponent.parserIn names cap depth).ReadsLongest top Number.exponents :=
    (hmark.andThen htop hinteger Number.apart_marks).reduce htop
  -- what is absent is read as an empty text
  have hwhole := hinteger.andThen htop (hfraction.optional htop) Number.apart_fractions
  have hnumber := hwhole.andThen htop (hexponent.optional htop) Number.apart_exponents
  exact hnumber.reduce htop

omit htop

/-- **The grammar of a decimal number reads the longest number.**  On a window of a text, under a
cap that leaves room for it, the grammar succeeds exactly if the text in view begins with a number.
It then produces the value of the longest such number and goes on behind it; otherwise it fails with
a single failure. -/
theorem parse_floating [Monoids] (names : Names) {cap : Int} (depth : Nat) {r : Span}
    {cs : Array Char} (hr : r.source.content = .text cs) (hcap : r.length < cap) :
    let t := (cs.extract r.start r.stop).toList
    let N := Number.decimalExpr.matches'
    let result := ((floating.parserIn names cap depth).parse r).result
    ((∃ x, result = .ok x ∧ x.isSuccess = true) ↔ ∃ w ∈ N, w <+: t) ∧
    ((∃ w ∈ N, w <+: t) → ∃ w v h, Text.LongestWord N t w ∧ Number.readFloat? w = some v ∧
      result = .ok (.single (.value (.float v) (r.drop w.length h)))) ∧
    ((∀ w ∈ N, ¬ w <+: t) → ∃ f, result = .ok (.fail f)) := by
  intro t N result
  have ht : r.Shows t := Span.shows_extract hr
  have hN : N = Number.decimals := Number.matches'_decimalExpr
  have hlex : (decimal.parserIn names cap depth).Lexes (fun _ => False) r N := by
    rw [hN]
    exact lexes_decimal hr
  have hlongest : (decimal.parserIn names cap depth).ReadsLongest r N := by
    rw [hN]
    exact readsLongest_decimal hr (Int.le_of_lt hcap)
  rcases hlongest.yields_or_fails hlex hr (.refl r) ht with ⟨w, h, hw, hyields⟩ | ⟨hnone, f, hf⟩
  · -- the longest number that is shown has a value
    obtain ⟨v, hv⟩ := Option.isSome_iff_exists.1 (Number.isSome_readFloat? (hN ▸ hw.mem))
    have hresult : result = .ok (.single (.value (.float v) (r.drop w.length h))) :=
      hyields.lift (Datum.toFloat_of_readFloat? hv)
    refine ⟨⟨fun _ => ⟨w, hw.mem, hw.begins⟩, fun _ => ⟨_, hresult, rfl⟩⟩,
      fun _ => ⟨w, v, h, hw, hv, hresult⟩, fun hnone => ?_⟩
    exact absurd hw.begins (hnone w hw.mem)
  · have hresult : result = .ok (.fail f) := hf.lift Datum.toFloat
    have hempty : ¬ ∃ w ∈ N, w <+: t := by
      rintro ⟨w, hw, hbegins⟩
      exact hnone w hw hbegins
    refine ⟨⟨?_, fun h => absurd h hempty⟩, fun h => absurd h hempty, fun _ => ⟨f, hresult⟩⟩
    rintro ⟨x, hx, hsuc⟩
    cases hresult.symm.trans hx
    cases hsuc

/-- The case of a number in the middle of a text, with an exponent mark and a sign behind it that no
digits follow. -/
theorem parse_floating_exponent :
    let _ : Monoids := .none
    let r : Span :=
      { source := .ofText "x-1.5e+".toList, start := 1, stop := 7, start_le_stop := by decide,
        stop_le_size := by decide }
    let cs := "x-1.5e+".toList.toArray
    let t := (cs.extract r.start r.stop).toList
    let N := Number.decimalExpr.matches'
    r.source.content = .text cs ∧ r.length < (7 : Int) ∧
      "-1.5".toList ∈ N ∧ "-1.5".toList <+: t ∧
      ∃ w v h, Text.LongestWord N t w ∧ Number.readFloat? w = some v ∧
        ((floating.parserIn (fun _ => none) 7 0).parse r).result
          = .ok (.single (.value (.float v) (r.drop w.length h))) := by
  intro _ r cs t N
  have hr : r.source.content = .text cs := rfl
  have hmem : "-1.5".toList ∈ N := (RegularExpression.rmatch_iff_matches' _ _).1 (by decide +kernel)
  have hprefix : "-1.5".toList <+: t := by decide
  have hcap : r.length < (7 : Int) := by decide
  exact ⟨hr, hcap, hmem, hprefix,
    (parse_floating (fun _ => none) 0 hr hcap).2.1 ⟨_, hmem, hprefix⟩⟩

end Grammar

end TokenGrammar
