import Walkthrough.Primitive

/-!
Exporting a plan as the skeleton of a browser script: the plan's name in the opening docstring, and
its primitive steps as comments between fixed lines.
-/

namespace Walkthrough.Script

def fallbackName : String := "testair plan"

def docstring (name : String) : String :=
  "\"\"\"Playwright skeleton exported from " ++ name ++ ".\"\"\""

/-- The fixed lines before the steps. -/
def opening : List String :=
  ["import asyncio",
    "",
    "from playwright.async_api import async_playwright",
    "",
    "",
    "async def run() -> None:",
    "    async with async_playwright() as playwright:",
    "        browser = await playwright.chromium.launch(headless=True)",
    "        page = await browser.new_page()"]

/-- The fixed lines after the steps. -/
def closing : List String :=
  ["        await browser.close()",
    "",
    "",
    "if __name__ == \"__main__\":",
    "    asyncio.run(run())"]

def comment (line : String) : String :=
  "        # " ++ line

def scriptLines (name : String) (steps : List String) : List String :=
  docstring name :: opening ++ steps.map comment ++ closing

end Script

def Plan.scriptLines (p : Plan) : Except Failure (List String) :=
  let name := if p.name.isTruthy then p.name.display else Script.fallbackName
  match p.lines with
  | .error failure => .error failure
  | .ok steps => .ok (Script.scriptLines name steps)

def Plan.script (p : Plan) : Except Failure String :=
  match p.scriptLines with
  | .error failure => .error failure
  | .ok lines => .ok (Text.unlines lines)

end Walkthrough
