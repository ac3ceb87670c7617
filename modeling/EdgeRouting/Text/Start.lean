/-!
# The beginning of a text
-/

namespace EdgeRouting.Text

def startsWith (text beginning : String) : Bool :=
  beginning.toList.isPrefixOf text.toList

end EdgeRouting.Text
