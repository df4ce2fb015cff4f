import Munch.Stream

/-! # Whole passes

A pass over a source gives its tokens and the report of its errors. The same pass can also be taken
as a success or a failure: with all of its errors, or with the first alone. -/
set_option autoImplicit false

namespace Munch

/-- The tokens of a pass, the closing one last unless it was given out before, and the report of its
errors. -/
structure Lexed where
  tokens : List Token
  report : Report
deriving DecidableEq

/-- The tokens that a stream still has, and every error of its pass, those met before included. -/
def Stream.collect (stream : Stream) : Lexed :=
  let (items, behind) := stream.drain
  ⟨items.filterMap Item.token?, behind.report⟩

def Lexed.toResult (lexed : Lexed) : Except Report (List Token) :=
  if lexed.report.isEmpty then .ok lexed.tokens else .error lexed.report

/-- The tokens up to the first error behind those taken before, the latest of which stands first, or
that error. -/
def Item.tokensFrom (taken : List Token) : List Item → Except LexError (List Token)
  | [] => .ok taken.reverse
  | .token found :: rest => tokensFrom (found :: taken) rest
  | .error found :: _ => .error found

/-- The tokens of items among which there is no error, or the first error. -/
def Item.tokens (items : List Item) : Except LexError (List Token) := tokensFrom [] items

def tokenize (config : Config) (source : Text) : List Item :=
  (Stream.ofText config source).drain.1

def lex (config : Config) (source : Text) : Lexed :=
  (Stream.ofText config source).collect

def lexDefault (source : Text) : Except Report (List Token) :=
  (lex .default source).toResult

def tokensOrFirstError (config : Config) (source : Text) : Except LexError (List Token) :=
  Item.tokens (tokenize config source)

end Munch
