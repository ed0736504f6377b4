/-!
# The template of a configuration file

Every setting with its built-in value and a comment.
-/

namespace CoverageQuery

def Config.template : String :=
  "# Datacube Configuration\n" ++
  "#\n" ++
  "# Environment variables override these settings:\n" ++
  "# - DATACUBE_ENDPOINT\n" ++
  "# - DATACUBE_SERVICE\n" ++
  "# - DATACUBE_VERSION\n" ++
  "# - DATACUBE_TIMEOUT_SECS\n" ++
  "# - DATACUBE_LOG_LEVEL\n" ++
  "# - DATACUBE_LOG_FORMAT\n" ++
  "\n" ++
  "[service]\n" ++
  "# OWS endpoint of the coverage service\n" ++
  "endpoint = \"https://ows.rasdaman.org/rasdaman/ows\"\n" ++
  "\n" ++
  "# Service name and protocol version\n" ++
  "service = \"WCS\"\n" ++
  "version = \"2.0.1\"\n" ++
  "\n" ++
  "# Request timeout in seconds\n" ++
  "request_timeout_secs = 60\n" ++
  "\n" ++
  "[logging]\n" ++
  "# Log level: trace, debug, info, warn, error\n" ++
  "level = \"info\"\n" ++
  "\n" ++
  "# Log format: pretty (for development) or json (for production)\n" ++
  "format = \"pretty\"\n"

end CoverageQuery
