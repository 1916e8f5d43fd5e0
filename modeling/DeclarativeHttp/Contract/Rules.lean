import DeclarativeHttp.Contract.Basic

/-!
# Dialects made of rules

A dialect as a table of rules, one for each attribute it knows. Attributes without a
rule do no harm: they leave a warning.
-/

namespace DeclarativeHttp

abbrev Step := Metadata → Except Error Metadata

abbrev InterfaceRule := Attribute → Interface → Option Step

abbrev OperationRule := Attribute → Operation → Option Step

abbrev ParameterRule := Attribute → Nat → Option Step

/-- The rules in the order of registration; `name` stands in warnings. -/
structure RuleTable where
  name : String
  interfaceRules : List InterfaceRule
  operationRules : List OperationRule
  parameterRules : List ParameterRule

namespace RuleTable

def empty (name : String) : RuleTable := ⟨name, [], [], []⟩

def names (as : List Attribute) : String := "[" ++ ", ".intercalate (as.map Attribute.name) ++ "]"

def interfaceSteps (t : RuleTable) (i : Interface) : List Step :=
  i.attributes.flatMap fun a => t.interfaceRules.filterMap fun r => r a i

def operationSteps (t : RuleTable) (a : Attribute) (op : Operation) : List Step :=
  t.operationRules.filterMap fun r => r a op

/-- Of the rules for one attribute the last one counts. -/
def parameterSteps (t : RuleTable) (p : Parameter) (i : Nat) : List Step :=
  p.attributes.filterMap fun a => t.parameterRules.reverse.findSome? fun r => r a i

def run : List Step → Step
  | [], m => .ok m
  | f :: fs, m => do run fs (← f m)

def interfaceWarning (t : RuleTable) (i : Interface) : String :=
  if i.attributes.isEmpty then
    s!"Class {i.name} has no annotations, it may affect contract {t.name}"
  else
    s!"Class {i.name} has annotations {names i.attributes} that are not used by contract {t.name}"

def operationWarning (t : RuleTable) (a : Attribute) (op : Operation) : String :=
  s!"Method {op.name} has an annotation {a.name} that is not used by contract {t.name}"

def parameterWarning (t : RuleTable) (p : Parameter) (i : Nat) : String :=
  let name := p.name.getD s!"#{i}"
  s!"Parameter {name} has annotations {names p.attributes} that are not used by contract {t.name}"

def dialect (t : RuleTable) : Dialect where
  interface i m :=
    let steps := t.interfaceSteps i
    if steps.isEmpty then .ok (m.warn (t.interfaceWarning i)) else run steps m
  operation a op m :=
    let steps := t.operationSteps a op
    if steps.isEmpty then .ok (m.warn (t.operationWarning a op)) else run steps m
  parameter p i m :=
    let steps := t.parameterSteps p i
    let m :=
      if steps.isEmpty then
        if p.attributes.isEmpty then .ok m else .ok (m.warn (t.parameterWarning p i))
      else run steps m
    m.map (false, ·)

end RuleTable

end DeclarativeHttp
