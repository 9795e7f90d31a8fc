/-
# A demonstration

Applies the ready-made grammars to short texts and shows what comes out.
-/
import TokenGrammar.Rule

namespace TokenGrammar

namespace Demo

variable [Monoids]

/-- The values of a grammar on a text, or what stands in the way. -/
def valuesOf (g : Grammar) (text : String) : Except String (List Datum) :=
  match ((g.toParser .empty 1000000).values (.whole (.ofText text.toList))).result with
  | .ok (.ok values) => .ok values
  | .ok (.error f) => .error f.describe
  | .error h => .error (h.message.getD "")

/-- A heading and indented lines about the values of a grammar on a text. -/
def entry (heading : String) (g : Grammar) (text : String) (lines : List Datum → List String) :
    List String :=
  let shown := match valuesOf g text with
    | .ok values => lines values
    | .error message => [" " ++ message]
  heading :: shown.map ("\t" ++ ·)

/-- Values as the program prints them. -/
def listed (values : List Datum) : String :=
  " " ++ (Datum.list values).render

/-- The values and a line about what they come to together. -/
def listedWith (name : String) (combine : Datum → Datum → Except Fault Datum) (seed : Datum)
    (values : List Datum) : List String :=
  match values.foldlM combine seed with
  | .ok total => [listed values, name ++ ": " ++ total.render]
  | .error _ => [listed values]

/-- A pattern as a grammar. -/
def regex (pattern : String) : Grammar :=
  Rule.orFault (Rule.regexGrammar (.ofString pattern) none)

/-- The name of a blank character. -/
def blankName : Datum → String
  | .text [' '] => "space"
  | .text ['\n'] => "newline"
  | .text ['\t'] => "tab"
  | .text ['\x0b'] => "vertical tab"
  | .text ['\r'] => "carriage return"
  | .text ['\x0c'] => "form feed"
  | _ => "not whitespace"

/-- The number one as a floating point number. -/
def one : Datum :=
  .float (.ofRatio false 1 1)

/-- The lines that the program prints. -/
def lines : List String :=
  entry "rx_as result:" (regex "a+") "aabbb" (fun values => [listed values])
  ++ entry "rx_as_bs result:" (regex "a+b+") "aabbb" (fun values => [listed values])
  ++ entry "whitespace result:" .spaces " \n\t \r\x0b\x0c"
    (fun values => [listed (values.map fun v => .ofString (blankName v))])
  ++ entry "digits result:" (.spaced (.lift .digit Datum.toInt)) "123 45 42 1001"
    (fun values => [listed values])
  ++ entry "naturals result:" (.naturals 10) "123 45 42 1001"
    (listedWith "sum" Datum.add (.int 0))
  ++ entry "integers result:" .integers "-13 45 -99 +803"
    (listedWith "sum" Datum.add (.int 0))
  ++ entry "floats result:" .floatings "-2.3 3.14159 1 2e-2 -5.2E5"
    (listedWith "product" Datum.mul one)
  ++ entry "words result:" .words "the quick brown fox jumped over the lazy dog"
    (fun values => [listed values])
  ++ entry "failure looks like:" .integers "" (fun values => [listed values])

/-- The whole demonstration as text. -/
def transcript : String :=
  String.join (lines.map (· ++ "\n"))

end Demo

end TokenGrammar
