import SearchQuery.CommandLine.Run

namespace SearchQuery

def usageText : String :=
  "Compile a saved clause list into a search request body\n\n" ++
  "Usage: search-query [OPTIONS]\n\n" ++
  "Options:\n" ++
  "      --clauses <CLAUSES>            Clause list JSON file (\"-\" reads stdin)\n" ++
  "      --settings <SETTINGS>          Search settings JSON file\n" ++
  "      --index <INDEX>                Index name, overrides the settings file\n" ++
  "      --page <PAGE>                  Page number\n" ++
  "      --per-page <PER_PAGE>          Page size, overrides the settings file\n" ++
  "      --order-by <ORDER_BY>          Sort keys as field:direction, comma separated\n" ++
  "      --script-score <SCRIPT_SCORE>  Score expression replacing relevance\n" ++
  "      --count                        Print the count request body\n" ++
  "      --pretty                       Pretty-print the output\n" ++
  "  -h, --help                         Print help\n"

def readText (path : String) : IO (Except String String) := do
  try
    return .ok (← IO.FS.readFile path)
  catch error =>
    match error with
    | .noFileOrDirectory _ _ _ => return .error "No such file or directory (os error 2)"
    | .permissionDenied _ _ _ => return .error "Permission denied (os error 13)"
    | .inappropriateType _ _ _ => return .error "Is a directory (os error 21)"
    | other => return .error other.toString

def readInput : IO (Except String String) := do
  try
    return .ok (← (← IO.getStdin).readToEnd)
  catch error => return .error error.toString

def runOptions (options : Options) : IO UInt32 := do
  let paths := options.settings.toList ++ (options.clauses.toList.filter (· ≠ "-"))
  let texts ← paths.mapM readText
  let contents := paths.zip texts
  let input ← if (options.clauses.getD "-") = "-" then readInput else pure (.ok "")
  match options.run (fun path => (contents.lookup path).getD (.error "")) input with
  | .ok body =>
    IO.print (options.render body)
    return 0
  | .error failure =>
    IO.eprintln ("Error: " ++ failure.message)
    return 1

end SearchQuery

def main (args : List String) : IO UInt32 := do
  let names := ["SQUIDEX_CLAUSES", "SQUIDEX_SETTINGS", "SQUIDEX_INDEX"]
  let values ← names.mapM fun name => IO.getEnv name
  let environment := names.zip values
  match SearchQuery.Usage.read args fun name => (environment.lookup name).getD none with
  | .options options => SearchQuery.runOptions options
  | .help =>
    IO.print SearchQuery.usageText
    return 0
  | .refused =>
    IO.eprintln "error: unusable arguments"
    return 2
