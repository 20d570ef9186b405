import Prose.Text

/-!
# Template of a settings file

A settings file in which every setting is commented out and stands for its default.
-/

namespace Prose.Settings

/-- The lines of the template. -/
def templateLines : List String :=
  ["# textree configuration",
    "#",
    "# Locations (by precedence, lowest to highest):",
    "#   Global: ~/.config/textree/textree.toml",
    "#   Local:  <dir>/.textree.toml          (selected with -C <dir>)",
    "#   Env:    TEXTREE_* environment variables, nested keys use \"__\"",
    "#           e.g. TEXTREE_MIN_WORDS=4, TEXTREE_PREPROCESS__ENABLED=false",
    "",
    "# Input file used when a command gets no FILE argument",
    "# input_path = \"data/input.txt\"",
    "",
    "# Sentences with fewer words are removed by `textree filter`",
    "# min_words = 3",
    "",
    "# Symbol whose occurrences order lexemes in `textree sort-lexemes`",
    "# order_symbol = \"a\"",
    "",
    "# Letters counted as vowels by `textree vowels`",
    "# vowels = \"aeiouy\"",
    "",
    "[preprocess]",
    "# Replace embedded arithmetic/bitwise expressions by their value",
    "# enabled = true",
    "",
    "[parser]",
    "# Regex separating paragraphs after empty lines have been dropped",
    "# paragraph_delimiter = '\\r?\\n[ \\t]*\\r?\\n|\\t| \x7b4,\x7d'"]

def template : Text :=
  templateLines.flatMap fun line => line.toList ++ ['\n']

end Prose.Settings
