/-
  MetricQuery.Fault
  ─────────────────
  **WHAT CAN GO WRONG, AND HOW IT IS TOLD.**

  Every failure is a cause.  The causes that this library finds are named one by
  one; a store or a resolver supplied from outside may report a text of its own.
  The wording of all of them stands in this module alone.

    • `Fault`          — the causes, grouped by the kind of failure,
    • `Fault.message`  — the text of a failure,
    • `Fault.isUser`, `Fault.isStore`, `Fault.isRetryable` — who is to act on it.
-/
import MetricQuery.Text.Quoted

namespace MetricQuery

/-! ## §1. Causes. -/

/-- Why a formula is refused at one of its tokens. -/
inductive SyntaxCause where
  | unrecognizedCharacter
  | unterminatedExpression
  | expectedOperand
  | expectedOperator
  | unbalancedParenthesis
  | unbalancedBracket
  | expectedOptionName
  | expectedEquals
  | expectedOptionValue
  | reported (text : String)
  deriving DecidableEq, Repr

/-- Why a variable of a formula has no value. -/
inductive VariableCause where
  | missingOption (key : String) (options : List (String × String))
  | unknownAggregation (name : String)
  | reported (text : String)
  deriving DecidableEq, Repr

/-- Why a pipeline cannot go on. -/
inductive ExecutionCause where
  | needsSeries (stage : String)
  | listInsteadOfSeries
  | nothingInsteadOfSeries
  | emptyBranch
  | scalarWithoutGrid (formula : String)
  | reported (text : String)
  deriving DecidableEq, Repr

/-- Why a pipeline cannot be assembled. -/
inductive ConfigurationCause where
  | unknownTimezone (name : String)
  | badWindow (length distance : Int)
  | emptyRange (start stop : Int)
  | noEntity
  | unreadableDocument
  | reported (text : String)
  deriving DecidableEq, Repr

/-- A failure of a formula, a pipeline, a store or a configuration. -/
inductive Fault where
  | syntaxError (position : Nat) (token : String) (cause : SyntaxCause)
  | invalidVariable (cause : VariableCause)
  | unsupportedResolution (seconds : Nat)
  | unsupportedAggregation (name : String)
  | store (text : String)
  | execution (cause : ExecutionCause)
  | configuration (cause : ConfigurationCause)
  | inputOutput (text : String)
  deriving DecidableEq, Repr

/-! ## §2. Texts. -/

/-- The wording of a syntax error. -/
def SyntaxCause.message : SyntaxCause → String
  | unrecognizedCharacter => "unrecognized character"
  | unterminatedExpression => "unterminated expression"
  | expectedOperand => "expected number, variable or '('"
  | expectedOperator => "expected operator or end of formula"
  | unbalancedParenthesis => "unbalanced parenthesis, expected ')'"
  | unbalancedBracket => "unbalanced bracket, expected ']'"
  | expectedOptionName => "expected variable option name"
  | expectedEquals => "expected '=' after option name"
  | expectedOptionValue => "expected option value"
  | reported text => text

/-- The wording of a variable without a value. -/
def VariableCause.message : VariableCause → String
  | missingOption key options =>
      "variable is missing '" ++ key ++ "': " ++ Text.quotedPairs options
  | unknownAggregation name => "unknown aggregation '" ++ name ++ "'"
  | reported text => text

/-- The wording of a failed run. -/
def ExecutionCause.message : ExecutionCause → String
  | needsSeries stage => stage ++ " requires a series or list input"
  | listInsteadOfSeries => "expected a single series, got a list"
  | nothingInsteadOfSeries => "expected a single series, got no data"
  | emptyBranch => "branch produced no series"
  | scalarWithoutGrid formula =>
      "formula '" ++ formula ++ "' evaluated to a scalar with no time grid"
  | reported text => text

/-- The wording of a refused configuration. -/
def ConfigurationCause.message : ConfigurationCause → String
  | unknownTimezone name => "unknown timezone '" ++ name ++ "': failed to parse timezone"
  | badWindow length distance =>
      "window length and distance must be positive, got " ++ toString length ++ " and " ++
        toString distance
  | emptyRange start stop =>
      "empty retrieval range [" ++ toString start ++ ", " ++ toString stop ++ ")"
  | noEntity => "retrieval needs at least one entity"
  | unreadableDocument => "unreadable document"
  | reported text => text

namespace Fault

/-- The text of a failure. -/
def message : Fault → String
  | syntaxError position token cause =>
      "syntax error at position " ++ toString position ++ ": " ++ cause.message ++ " (near '" ++
        token ++ "')"
  | invalidVariable cause => "invalid variable: " ++ cause.message
  | unsupportedResolution seconds =>
      "unsupported resolution: " ++ toString seconds ++ " seconds"
  | unsupportedAggregation name => "unsupported aggregation: " ++ name
  | store text => "store error: " ++ text
  | execution cause => "execution error: " ++ cause.message
  | configuration cause => "configuration error: " ++ cause.message
  | inputOutput text => "IO error: " ++ text

/-! ## §3. Who is to act. -/

/-- The user wrote something that is not supported. -/
def isUser : Fault → Bool
  | syntaxError .. | invalidVariable _ | unsupportedResolution _ | unsupportedAggregation _ => true
  | store _ | execution _ | configuration _ | inputOutput _ => false

/-- The failure comes from the store. -/
def isStore : Fault → Bool
  | store _ => true
  | _ => false

/-- Nothing in the library retries: a policy for that belongs to the store. -/
def isRetryable (_ : Fault) : Bool :=
  false

end Fault
end MetricQuery
