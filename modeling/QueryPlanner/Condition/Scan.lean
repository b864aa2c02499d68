import QueryPlanner.Condition.Lexeme

/-!
The tokens of a condition text by their byte offsets: one at a time, and all of them in a row.
-/

namespace QueryPlanner.Condition

open QueryPlanner.Text

/-- The first token of a text that begins at a byte offset of a source. -/
def Source.scanText (source : Source) (start : Nat) (text : List Char) :
    Except SyntaxFault Token :=
  let (ignored, rest) := spanIgnored false text
  let position := start + byteLength ignored
  match rest with
  | [] => .ok (.eof position)
  | c :: tail =>
      match readLexeme c tail with
      | .ok lexeme =>
          .ok ⟨lexeme.kind, lexeme.value.map String.ofList, position,
            position + byteLength lexeme.written⟩
      | .error misread =>
          .error ⟨misread.cause, source,
            position + (byteLength rest - byteLength misread.left)⟩

/-- The first token at or after a byte offset.  An offset past the end or inside a character is
the end of the text. -/
def Source.tokenAt (source : Source) (start : Nat) : Except SyntaxFault Token :=
  match dropBytes start source.body with
  | none => .ok (.eof start)
  | some text => source.scanText start text

/-- The tokens from an offset on, each read where the one before it ends, up to the end of the
text or the first fault.  No more than `bound` tokens are read. -/
def Source.scanFrom (source : Source) : (bound start : Nat) → List Token × Option SyntaxFault
  | 0, _ => ([], none)
  | bound + 1, start =>
      match source.tokenAt start with
      | .error fault => ([], some fault)
      | .ok token =>
          if token.kind = .eof then ([token], none)
          else
            let (tokens, fault) := source.scanFrom bound token.stop
            (token :: tokens, fault)

/-- The tokens of a source up to the end of the text or the first fault.  Each token but the last
takes a character at least, so the bound is never met. -/
def Source.scan (source : Source) : List Token × Option SyntaxFault :=
  source.scanFrom (source.body.length + 1) 0

def Source.tokens (source : Source) : Except SyntaxFault (List Token) :=
  match source.scan with
  | (tokens, none) => .ok tokens
  | (_, some fault) => .error fault

end QueryPlanner.Condition
