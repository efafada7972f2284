import CodeRepair.Language

/-!
The text that asks a model for a fix.
-/
namespace CodeRepair.Prompt

def answerForm (withConfidence : Bool) : String :=
  "\x7b\n  \"explanation\": \"Brief explanation of the issue and fix\",\n  \"fixed_code\": \"Complete corrected code\"" ++
    (if withConfidence then ",\n  \"confidence\": 0.95\n\x7d" else "\n\x7d")

def build (language : Language) (code error : String) (withConfidence : Bool) : String :=
  "You are an expert " ++ language.displayName ++ " debugger.\n\nUser code:\n" ++ code ++ "\n\nError:\n" ++ error ++
    "\n\nRespond ONLY with valid JSON in this format:\n" ++ answerForm withConfidence ++ "\n" ++
    (if withConfidence then
      "\nThe confidence field should be a float between 0.0 and 1.0 indicating your certainty about the fix.\n"
    else "") ++
    "Do not include markdown or extra text.\n"

end CodeRepair.Prompt
