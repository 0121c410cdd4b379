/-
# Scaffold.Rejection -- why an input is refused

Every check on what a user writes refuses for one of seven rules, and for a rule there is one
phrase. A rejection carries besides the rule whatever the check saw: the field that lacks a type,
the word that is no type, the answer that is neither yes nor no. `Rejection.message` is the only
place where these become a text.

What has passed these checks can still make no field or request, because it has a name that cannot
be one. That is no rejection, and nobody is told of it (`InputFailure.faulty`).
-/

import Scaffold.Checked

namespace Scaffold

/-- The rules that an input can break. -/
inductive Rule where
  | modelNameRequired
  | fieldsRequired
  | fieldNameRequired
  | fieldTypeRequired
  | fieldTypeInvalid
  | restInvalid
  | treeInvalid
  deriving DecidableEq, Repr

namespace Rule

/-- All rules, in the order in which they are documented. -/
def all : List Rule :=
  [modelNameRequired, fieldsRequired, fieldNameRequired, fieldTypeRequired, fieldTypeInvalid,
   restInvalid, treeInvalid]

/-- The phrase that tells a user which rule was broken. -/
def phrase : Rule → Text
  | modelNameRequired => "Argument required : Model name".text
  | fieldsRequired => "Argument required : fields".text
  | fieldNameRequired => "Argument required : Field Name".text
  | fieldTypeRequired => "Argument required : Field type".text
  | fieldTypeInvalid => "Invalid Argument : Field type is not allowed".text
  | restInvalid => "Argument invalid : rest".text
  | treeInvalid => "Argument invalid : file tree generation".text

end Rule

/-- A refused input: the cause, with what the check saw. -/
inductive Rejection where
  /-- No model name, or a blank one. -/
  | modelNameRequired
  /-- No field list, or a blank one. -/
  | fieldsRequired
  /-- A field without a name. -/
  | fieldNameRequired
  /-- The named field has no type word. -/
  | fieldTypeRequired (field : Text)
  /-- The word is none of the type words. -/
  | fieldTypeInvalid (word : Text)
  /-- The answer is neither `yes` nor `no`. -/
  | restInvalid (answer : Text)
  /-- The answer is neither `t` nor `m`. -/
  | treeInvalid (answer : Text)
  deriving DecidableEq, Repr

namespace Rejection

/-- The rule that was broken. -/
def rule : Rejection → Rule
  | modelNameRequired => .modelNameRequired
  | fieldsRequired => .fieldsRequired
  | fieldNameRequired => .fieldNameRequired
  | fieldTypeRequired _ => .fieldTypeRequired
  | fieldTypeInvalid _ => .fieldTypeInvalid
  | restInvalid _ => .restInvalid
  | treeInvalid _ => .treeInvalid

/-- What the check saw, empty where nothing was there to see. -/
def detail : Rejection → Text
  | modelNameRequired | fieldsRequired | fieldNameRequired => []
  | fieldTypeRequired s | fieldTypeInvalid s | restInvalid s | treeInvalid s => s

/-- The phrase of the rule, followed by the detail in parentheses where there is one. -/
def message (r : Rejection) : Text :=
  if r.detail = [] then r.rule.phrase
  else r.rule.phrase ++ " (".text ++ r.detail ++ ")".text

end Rejection

/-- Why nothing is made of an input. -/
inductive InputFailure where
  /-- A check refused it. -/
  | rejected (why : Rejection)
  /-- The checks let it pass, but what was to be made of it has faults. -/
  | faulty (faults : List Fault)
  deriving DecidableEq, Repr

end Scaffold
