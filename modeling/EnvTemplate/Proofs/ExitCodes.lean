import EnvTemplate.Proofs.Influence
import EnvTemplate.Proofs.Preview
import EnvTemplate.Proofs.TableLayout

namespace EnvTemplate

namespace Publisher

variable {publisher : Publisher} {world after : World} {answer : Except Verdicts Verdicts}

end Publisher

namespace CommandLine

variable {args : Arguments} {choice : ModeChoice} {program : String}
  {arguments : List String} {host : Host} {error : PublishError} {provenance : Provenance}
  {after : World} {files : FileTree} {launch : Launch} {format : Report.Format} {done : Done}

def load (args : Arguments) (choice : ModeChoice) (host : Host) :
    Except PublishError Provenance × World :=
  Publisher.runIn args.directory (settings args) (choice.mode host.world.store) host.world

end CommandLine

end EnvTemplate
