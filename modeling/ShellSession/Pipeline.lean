/-
**Pipelines of a host.**

A host asks for a row of stages, each a script text or a named command with parameters; every stage
receives the output of the one before.

* `Pipeline.display`: the text of a pipeline, which reads as a script again.
-/

import ShellSession.Value

namespace ShellSession

/-- A parameter of a command. -/
inductive Parameter where
  | named (name : String) (value : Value)
  | switch (name : String)
  | positional (value : Value)

namespace Parameter

/-- The name of a parameter. -/
def name? : Parameter → Option String
  | named name _ => some name
  | switch name => some name
  | positional _ => none

/-- The value of a parameter. -/
def value? : Parameter → Option Value
  | named _ value => some value
  | switch _ => none
  | positional value => some value

end Parameter

/-- A stage of a pipeline. -/
inductive Stage where
  | script (text : String)
  | command (name : String) (parameters : List Parameter)

/-- Stages in order. -/
structure Pipeline where
  stages : List Stage

/-- The characters of a text with every apostrophe written twice. -/
def doubleApostrophes : List Char → List Char
  | [] => []
  | c :: rest => if c = '\'' then c :: c :: doubleApostrophes rest else c :: doubleApostrophes rest

/-- A value as an argument is written: a text between apostrophes, all else as displayed. -/
def Value.argumentText : Value → String
  | .text chars => String.ofList ('\'' :: doubleApostrophes chars.toList ++ ['\''])
  | value => value.display

namespace Parameter

/-- A parameter as written behind a command, with a blank before each part. -/
def display : Parameter → String
  | named name value => " -" ++ name ++ " " ++ value.argumentText
  | switch name => " -" ++ name
  | positional value => " " ++ value.argumentText

end Parameter

namespace Stage

/-- The script text or command name. -/
def text : Stage → String
  | script text => text
  | command name _ => name

/-- The parameters of a stage. -/
def parameters : Stage → List Parameter
  | script _ => []
  | command _ parameters => parameters

/-- A stage as written. -/
def display (stage : Stage) : String :=
  stage.text ++ String.join (stage.parameters.map Parameter.display)

end Stage

namespace Pipeline

/-- The pipeline of one script text. -/
def script (text : String) : Pipeline :=
  ⟨[.script text]⟩

/-- One more stage at the end. -/
def push (pipeline : Pipeline) (stage : Stage) : Pipeline :=
  ⟨pipeline.stages ++ [stage]⟩

/-- The stages as written, with pipes between them. -/
def display (pipeline : Pipeline) : String :=
  " | ".intercalate (pipeline.stages.map Stage.display)

end Pipeline

end ShellSession
