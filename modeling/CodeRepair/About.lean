/-!
What the program is called.
-/
namespace CodeRepair

def programName : String := "mender"

def version : String := "0.1.0"

end CodeRepair
