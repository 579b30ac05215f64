import Walkthrough.Chat
import Walkthrough.Draft
import Walkthrough.Patch
import Walkthrough.Repair.Request

/-!
What a language model is told when a plan is to be drafted or repaired: the task, what is known, and
the form that the answer has to have. What is not known is left out.
-/

namespace Walkthrough.Chat.Prompt

/-- The parts that are not empty, with a separator between them. -/
def assemble (separator : String) (parts : List String) : String :=
  Text.join separator (parts.filter (· != ""))

/-- A part behind its title, if there is anything in it. -/
def titled (title : String) : Option String → String
  | some s => if s = "" then "" else title ++ s
  | none => ""

def conversation (instructions matter : String) : List Message :=
  [⟨"developer", instructions⟩, ⟨"user", matter⟩]

def draftInstructions : String :=
  "You generate deterministic website test plans as JSON. " ++
    "Output must be raw JSON only, no markdown, no prose."

def draft (r : Draft.Request) : List Message :=
  conversation draftInstructions (assemble "\n" [
    "Natural language test request: " ++ r.prompt,
    titled "Optional URL hint: " r.url,
    "Return ONLY valid JSON for the test plan.",
    "Plan must match DSL version 1 and include at least one step.",
    "Use $\x7bSECRET:NAME\x7d placeholders for any secrets (never real values).",
    "Top-level keys must be exactly: [\"version\", \"name\", \"baseUrl\", \"steps\"]"])

def repairInstructions : String :=
  "You repair test plans by outputting a minimal safe JSON patch object only. " ++
    "No markdown. No comments."

/-- How much of a snapshot is shown, in characters. -/
def snapshotLimit : Nat := 2000

def excerpt (s : String) : String :=
  String.ofList (s.toList.take snapshotLimit)

def repair (r : Repair.Request) : List Message :=
  conversation repairInstructions (assemble "\n\n" [
    "Given a failed deterministic browser run, return a constrained JSON patch object.",
    "Allowed ops: " ++ Text.join ", " Patch.ops,
    "Allowed paths: /steps/\x7bindex\x7d/" ++ Text.join "|" Patch.fields,
    "Return ONLY JSON with shape: " ++
      "\x7b reason: string, operations: [\x7b op, path, value \x7d] \x7d.",
    "Do not include explanations outside JSON.",
    "Current plan:\n" ++ r.plan.text,
    "Failure summary:\n" ++ r.record.summary,
    titled "DOM snippet:\n" (r.snapshot.map excerpt),
    titled "Screenshot path: " r.screenshot,
    "Patch keys must be exactly: [\"reason\", \"operations\"]"])

end Walkthrough.Chat.Prompt
