import PortfolioShell.Site.Basic

/-!
# The built-in site

The content that is served when no site document is given.
-/
namespace PortfolioShell.Site

/-- The owner of the built-in site. -/
def builtinOwner : Owner where
  name := "Alex Aleksejunas"
  handle := "aleksejunas"
  email := "your.email@example.com"
  github := "github.com/aleksejunas"
  linkedin := "linkedin.com/in/yourprofile"

/-- What the built-in site tells about its owner. -/
def builtinAbout : String :=
  "Hi, I'm Alex. I build web applications and developer tools.\n" ++
  "I like fast feedback loops, small sharp utilities and terminals.\n" ++
  "This site is itself a terminal: type `help` to look around."

/-- The quotes of the built-in site. -/
def builtinQuotes : List String := [
  "“The only way to do great work is to love what you do.” - Steve Jobs",
  "“The journey of a thousand miles begins with a single step.” - Lao Tzu",
  "“That which does not kill us makes us stronger.” - Friedrich Nietzsche",
  "\"Life is what happens when you're busy making other plans.\" - John Lennon"]

/-- One of the projects of the built-in site. -/
def projectAlpha : Project where
  title := "Project Alpha"
  slug := "project-alpha"
  description := "A cool app."
  longDescription :=
    "Project Alpha is a full-stack application designed to showcase modern web development " ++
    "practices. It features a reactive UI, real-time database updates, and a robust backend. " ++
    "The goal was to build a scalable and maintainable application from the ground up."
  technologies := ["React", "TypeScript", "Tailwind CSS", "Supabase", "Vite"]
  liveUrl := some "#"
  repoUrl := some "#"

/-- One of the projects of the built-in site. -/
def projectBeta : Project where
  title := "Project Beta"
  slug := "project-beta"
  description := "Another cool app."
  longDescription :=
    "Project Beta explores the possibilities of data visualization. It fetches complex " ++
    "datasets and renders them into interactive charts and graphs, providing users with " ++
    "insightful analytics. This project honed my skills in handling large amounts of " ++
    "data on the client-side."
  technologies := ["React", "D3.js", "TanStack Query", "Node.js"]
  liveUrl := some "#"
  repoUrl := some "#"

/-- One of the projects of the built-in site. -/
def projectGamma : Project where
  title := "Project Gamma"
  slug := "project-gamma"
  description := "You guessed it, cool."
  longDescription :=
    "A command-line tool for automating development workflows. It includes project scaffolding, " ++
    "code generation, and deployment scripts, significantly speeding up repetitive tasks."
  technologies := ["Node.js", "TypeScript", "Commander.js", "Inquirer.js"]
  liveUrl := none
  repoUrl := some "#"

/-- A sample of the code of the built-in site. -/
def sampleGreetingsPlanet : CodeSample where
  name := "GreetingsPlanet.tsx"
  content :=
    "import React from 'react';\nexport default function GreetingsPlanet() \x7b\n" ++
    "return <div>Greetings, Planet!</div>;\n\x7d\n"

/-- A sample of the code of the built-in site. -/
def sampleCounter : CodeSample where
  name := "Counter.tsx"
  content :=
    "import React, \x7b useState \x7d from 'react'\n" ++
    "export default function Counter() \x7b\nconst [count, setCount] = useState(0);\n" ++
    "return (\n<button onClick=\x7b() => setCount(count + 1)\x7d>\n" ++
    "Count: \x7bcount\x7d\n</button>\n);\n\x7d\n"

/-- The built-in site. -/
def builtin : Site where
  owner := builtinOwner
  about := builtinAbout
  quotes := builtinQuotes
  projects := [projectAlpha, projectBeta, projectGamma]
  code := [sampleGreetingsPlanet, sampleCounter]

end PortfolioShell.Site
