import Munch.Text

/-! # Settings

What a settings file can say about a lexer. Each part may be missing, and then keeps its default. -/
set_option autoImplicit false

namespace Munch

structure Settings where
  words : Option (List Text) := none
  strictNumbers : Option Bool := none
deriving DecidableEq, Repr

end Munch
