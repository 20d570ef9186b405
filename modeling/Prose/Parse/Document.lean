import Prose.Parse.Sentence
import Prose.Pattern.Reader

/-!
# Documents

A text is cut into paragraphs at the matches of a delimiter pattern. By default a paragraph ends at
an empty line, at a tab, and at four or more spaces.
-/

namespace Prose.Parse

/-- The written form of the default delimiter. -/
def defaultDelimiter : Text :=
  "\\r?\\n[ \\t]*\\r?\\n|\\t| \x7b4,\x7d".toList

/-- The default delimiter: an empty line, a tab, or an indent. -/
def paragraphBreak : Pattern :=
  let optionalReturn := Pattern.times (.one (· = '\r')) 0 (some 1) true
  let feed := Pattern.one (· = '\n')
  .alt
    (.cat optionalReturn (.cat feed (.cat
      (.times (.one fun c => c = ' ' || c = '\t') 0 none true) (.cat optionalReturn feed))))
    (.alt (.one (· = '\t')) (.times (.one (· = ' ')) 4 none true))

/-- The paragraphs of a text, without blanks at their ends. -/
def splitParagraphs (delimiter : Pattern) (t : Text) : List Text :=
  ((delimiter.split t).map Text.trim).filter (!·.isEmpty)

def document (delimiter : Pattern) (t : Text) : Node :=
  .composite .document ((splitParagraphs delimiter t).map paragraph)

end Prose.Parse
