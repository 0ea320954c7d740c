/-!
# Sample programs

Small programs that show the hazards of a pipeline.

Main statement: `lookup_default`, by which the program that is shown first is one of the samples.
-/

namespace FiveStage.Samples

/-- The samples with their names. -/
def all : List (String × String) := [
    ("Data Hazard Example",
      "// Data Hazard Example\n" ++
      "ADD R1, R2, R3    // R1 = R2 + R3\n" ++
      "SUB R4, R1, R5    // Uses R1 (RAW hazard)\n" ++
      "ADD R6, R4, R7    // Uses R4 (RAW hazard)"),
    ("Control Hazard Example",
      "// Control Hazard Example\n" ++
      "ADD R1, R2, R3    // R1 = R2 + R3\n" ++
      "BEQ R1, R4, 8     // Branch instruction\n" ++
      "ADD R5, R6, R7    // May not be executed\n" ++
      "SUB R8, R9, R10   // May not be executed"),
    ("Load-Use Hazard",
      "// Load-Use Hazard Example\n" ++
      "LW R1, 0(R2)      // Load from memory\n" ++
      "ADD R3, R1, R4    // Uses loaded value (stall required)\n" ++
      "SUB R5, R3, R6    // Uses result"),
    ("Mixed Hazards",
      "// Mixed Hazards Example\n" ++
      "LW R1, 0(R2)      // Load instruction\n" ++
      "ADD R3, R1, R4    // Load-use hazard\n" ++
      "BEQ R3, R5, 8     // Control hazard\n" ++
      "SW R3, 4(R2)      // Store instruction\n" ++
      "ADD R6, R3, R7    // Data hazard"),
    ("Complex Pipeline",
      "// Complex Pipeline Test\n" ++
      "ADD R1, R2, R3    // R1 = R2 + R3\n" ++
      "LW R4, 0(R1)      // Load using R1\n" ++
      "SUB R5, R4, R2    // Use loaded R4\n" ++
      "SW R5, 4(R1)      // Store result\n" ++
      "BEQ R5, R6, 8     // Branch on result\n" ++
      "ADD R7, R8, R9    // After branch\n" ++
      "OR R10, R7, R4    // Multiple dependencies\n" ++
      "AND R11, R10, R1  // Chain of dependencies")]

/-- The names of the samples. -/
def names : List String :=
  all.map (·.1)

/-- The text of the sample with a name. -/
def text? (name : String) : Option String :=
  all.lookup name

/-- The sample that is shown first. -/
def defaultName : String := "Data Hazard Example"

/-- The text of the sample that is shown first. -/
def defaultText : String :=
  (text? defaultName).getD ""

theorem lookup_default : text? defaultName = some defaultText := rfl

end FiveStage.Samples
