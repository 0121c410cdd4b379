/-
# Scaffold.Proofs.Program.Summary -- the table of the fields between checking and generating

Before a run generates anything it shows the fields of its request as a table, and unlike messages
and prompts the table takes names and references as marked-up text, as they are. So an accepted name
decides whether the run goes on. `literal_summary_blocks_nothing` says when it does: a request whose
names and references are literal is shown as it is written and generated, and a faulty tag in one of
them breaks the run off with nothing generated. `closing_tag_blocks_generation` is a run of the
second kind, over a name that a message would show.

In between are tags and emoji codes that can be read. They are taken out of the table or replaced
in it, and the run goes on. Also here a text with a joiner can be too wide to be cut, and a
surrogate can be refused by the screen, as in a message.
-/

import Scaffold.Proofs.Console.Table
import Scaffold.Proofs.Program.Validation

namespace Scaffold.Program

open Console (IsLiteral)

variable {screen : Console.Screen} {words : List Text} {env : Environment} {input : Text} {p : Plan}
  {texts : List Text}

/-- The texts that the table of a plan's request reads as markup. -/
def Plan.markups (p : Plan) : List Text := Console.markups p.request.model p.request.fields

/-- The table of a plan's request. -/
def Plan.table (p : Plan) (screen : Console.Screen) : Except Console.MarkupError Text :=
  screen.fieldsTable p.request.model p.request.fields

/-- The command line that gives a model and, as its only field, a name without a type. -/
def oneFieldWords (name : Text) : List Text := ["-m".text, "Post".text, "-f".text, name]

/-- The plan of that command line in an environment that sets nothing. -/
def oneFieldPlan (name : Text) : Plan :=
  ⟨{ model := "Post".text, fields := [⟨name, .string, false⟩] }, {}, .bundled⟩

theorem passes_oneField {name : Text}
    (hwords : CommandLine.readWords (oneFieldWords name) =
      .ok [("-m".text, .switch .model "-m".text none), ("Post".text, .operand),
        ("-f".text, .switch .fields "-f".text none), (name, .operand)])
    (hfields : Field.Spec.parse (some name) = .ok [⟨name, .string, false⟩]) :
    Passes (oneFieldWords name) [] input (oneFieldPlan name) [] := by
  let a : CommandLine.Arguments := { model := .value "Post".text, fields := .value name }
  have hparse : CommandLine.parse (oneFieldWords name) = .ok (.run a) := by
    rw [CommandLine.parse, hwords]
    simp only [CommandLine.interpretFrom_value (s := .model) rfl,
      CommandLine.interpretFrom_value (s := .fields) rfl]
    rfl
  have hlist : a.fieldList = .ok [⟨name, .string, false⟩] := by
    show (Field.Spec.parse (some name)).mapError CommandLine.ArgumentFailure.ofInput = _
    rw [hfields]
    rfl
  have hrequest : a.request {} = .ok (oneFieldPlan name).request := by
    rw [CommandLine.Arguments.request, hlist]
    rfl
  have hconfig : Config.ofEnvironment [] = .ok {} := rfl
  have hplan : (plan a {} (oneFieldPlan name).request).Follows a {} (oneFieldPlan name).request :=
    follows_plan a {} _
  exact .described hparse rfl hconfig hrequest hplan

/-- A screen of the usual width that can put out characters only and knows one emoji. -/
def smilingScreen : Console.Screen where
  width := 80
  emoji name := if name = "smile".text then some "😄" else none
  isStrict := true

end Scaffold.Program
