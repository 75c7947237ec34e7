import TextTemplate.Dialect.Basic

/-! # The standard dialect

`${variable | pipe : parameter}` with a backslash as the escape.  Blanks around
delimiters belong to the delimiter.  Names and parameters may be quoted with single
or double quotation marks; a quoted span without a closing mark runs to the end of
the text.

The patterns are given as trees; the lemmas at the end say that these are the trees
of their texts. -/
namespace TextTemplate

namespace Pattern

/-- Any number of blanks. -/
def blanks : Node := .repeat (.set Unicode.Property.whiteSpace) 0 none true

/-- A pattern that may match only at the start of the text. -/
def atStart (n : Node) : Node := .seq (.mark .textStart) n

/-- One backslash. -/
def standardEscape : Pattern := ⟨"^(?:\\\\)", atStart (.char '\\'), 0⟩

/-- A dollar sign and an opening brace, and blanks behind them. -/
def standardVariableStart : Pattern :=
  ⟨"^(?:\\$\\\x7b\\s*)", atStart (.seq (.literal ['$', '{']) blanks), 0⟩

/-- Blanks and a closing brace. -/
def standardVariableEnd : Pattern :=
  ⟨"^(?:\\s*\\\x7d)", atStart (.seq blanks (.char '}')), 0⟩

/-- A vertical bar between blanks. -/
def standardPipeStart : Pattern :=
  ⟨"^(?:\\s*\\|\\s*)", atStart (.seq blanks (.seq (.char '|') blanks)), 0⟩

/-- A colon between blanks. -/
def standardParameterStart : Pattern :=
  ⟨"^(?:\\s*:\\s*)", atStart (.seq blanks (.seq (.char ':') blanks)), 0⟩

/-- A character that is neither the quotation mark nor a backslash, or a backslash
and any character but a line break. -/
def quotedUnit (mark : Char) : Node :=
  .alt (.ofSet ((Unicode.CharSet.single mark).union (.single '\\')).complement)
    (.seq (.char '\\') (.ofSet (Unicode.CharSet.single '\n').complement))

/-- A quotation mark, units as a numbered group, and a closing pattern. -/
def quotedSpan (mark : Char) (index : Nat) (closing : Node) : Node :=
  .seq (.char mark) (.seq (.group index (.repeat (quotedUnit mark) 0 none true)) closing)

/-- The text of the pattern for quoted spans. -/
def standardQuoteText : String :=
  "^('((?:[^'\\\\]|\\\\.)*)'|'((?:[^'\\\\]|\\\\.)*)$|\"((?:[^\"\\\\]|\\\\.)*)\"|\"((?:[^\"\\\\]|\\\\.)*)$)"

/-- A span in single or double quotation marks, closed or running to the end. -/
def standardQuote : Pattern :=
  ⟨standardQuoteText,
    atStart (.group 1
      (.alt (quotedSpan '\'' 2 (.char '\''))
        (.alt (quotedSpan '\'' 3 (.mark .textEnd))
          (.alt (quotedSpan '"' 4 (.char '"')) (quotedSpan '"' 5 (.mark .textEnd)))))),
    5⟩

theorem readAnchored_escape : readAnchored "\\\\" = .ok standardEscape :=
  read_eq_ok (by decide +kernel)

theorem readAnchored_variableStart :
    readAnchored "\\$\\\x7b\\s*" = .ok standardVariableStart :=
  read_eq_ok (by decide +kernel)

theorem readAnchored_variableEnd : readAnchored "\\s*\\\x7d" = .ok standardVariableEnd :=
  read_eq_ok (by decide +kernel)

theorem readAnchored_pipeStart : readAnchored "\\s*\\|\\s*" = .ok standardPipeStart :=
  read_eq_ok (by decide +kernel)

theorem readAnchored_parameterStart :
    readAnchored "\\s*:\\s*" = .ok standardParameterStart :=
  read_eq_ok (by decide +kernel)

theorem read_standardQuoteText : read standardQuoteText = .ok standardQuote :=
  read_eq_ok (by decide +kernel)

end Pattern

namespace Quoting

/-- Single and double quotation marks. -/
def standard : Quoting := .pattern Pattern.standardQuote

/-- Balanced braces. -/
def standardBraces : Quoting := .braces '{' '}'

end Quoting

namespace Dialect

/-- The standard dialect. -/
def standard : Dialect where
  escape := .ofPattern Pattern.standardEscape
  variableStart := .ofPattern Pattern.standardVariableStart
  variableEnd := .ofPattern Pattern.standardVariableEnd
  pipeStart := .ofPattern Pattern.standardPipeStart
  parameterStart := .ofPattern Pattern.standardParameterStart
  names := .standard
  parameters := .standard

end Dialect
end TextTemplate
