import Cellbook.Version

/-!
# Page

The page that loads the user interface, and the names of its script among the assets.
-/

namespace Cellbook.Server

/-- The name of the script of the user interface. -/
def scriptAsset : String := "unotebook.js"

/-- The name of the compressed script, which is preferred. -/
def compressedScriptAsset : String := "unotebook.js.gz"

/-- The lines of the page after the one that tells the version. -/
def pageLines : List String := [
  "",
  "<!doctype html>",
  "<meta charset=\"utf-8\">",
  "<title>µNotebook</title>",
  "<body style='background-color: #f4f0e8; font-family: system-ui, \"Segoe UI\", Roboto, Oxygen, Ubuntu, Cantarell, \"Fira Sans\", \"Droid Sans\", \"Helvetica Neue\", sans-serif;' id=\"app\">Loading...</body>",
  "<style>",
  "  body \x7b",
  "    font-size: 16px;",
  "    line-height: 1.65;",
  "  \x7d",
  "  .output \x7b",
  "    padding: 8px;",
  "    display: block;",
  "  \x7d",
  "</style>",
  "<script type=\"module\" src=\"/unotebook.js\"></script>",
  ""]

/-- The page. -/
def page : String :=
  "<script>window.__unotebook_version__ = '" ++ version ++ "'</script>" ++
    "\n".intercalate pageLines

end Cellbook.Server
