-- The OpenAPI description of the service itself, which it serves.
import CatalogGate.Text.Columns

namespace CatalogGate.Service

def descriptionLines : List String :=
  ["openapi: 3.1.0",
    "info:",
    "  title: oasgate API",
    "  version: 0.1.0",
    "  description: |",
    "    Validates OpenAPI documents against a schema and a custom ruleset, and",
    "    publishes documents that have no error-level findings to the API catalog.",
    "",
    "    Findings are data: a failing document still gets a 200/400 response with",
    "    the full finding list. Problem Details (RFC 9457) are reserved for uploads",
    "    that never reached validation and for requests the pipeline could not",
    "    complete.",
    "  license:",
    "    name: AGPL-3.0-only",
    "    identifier: AGPL-3.0-only",
    "",
    "servers:",
    "  - url: http://localhost:3000",
    "    description: Local development",
    "",
    "tags:",
    "  - name: Documents",
    "    description: Validation and publication of OpenAPI documents",
    "  - name: Operations",
    "    description: Health and metrics",
    "",
    "paths:",
    "  /v1/openapi/validate:",
    "    post:",
    "      tags: [Documents]",
    "      operationId: validateDocument",
    "      summary: Validate an OpenAPI document",
    "      description: |",
    "        Runs the document through the schema and ruleset checks. Responds 200",
    "        when no finding fails the gate, 400 otherwise. A finding fails the gate",
    "        when its severity is \x60Error\x60 or its code is \x60unrecognized-format\x60.",
    "      requestBody:",
    "        $ref: '#/components/requestBodies/DocumentUpload'",
    "      responses:",
    "        '200':",
    "          description: The document passed. Warnings and hints may be present.",
    "          content:",
    "            application/json:",
    "              schema:",
    "                $ref: '#/components/schemas/FindingList'",
    "        '400':",
    "          $ref: '#/components/responses/FailedOrInvalidUpload'",
    "        '422':",
    "          $ref: '#/components/responses/Unprocessable'",
    "        '500':",
    "          $ref: '#/components/responses/InternalError'",
    "",
    "  /v1/openapi/publish:",
    "    post:",
    "      tags: [Documents]",
    "      operationId: publishDocument",
    "      summary: Validate and publish an OpenAPI document",
    "      description: |",
    "        Publishes the document to the API catalog if and only if it passes",
    "        validation. The catalog is called at most once per request.",
    "      requestBody:",
    "        $ref: '#/components/requestBodies/DocumentUpload'",
    "      responses:",
    "        '201':",
    "          description: The document passed validation and was published.",
    "          content:",
    "            text/plain:",
    "              schema:",
    "                type: string",
    "                example: 'OpenAPI document: petstore.yaml published to API catalog'",
    "        '400':",
    "          $ref: '#/components/responses/FailedOrInvalidUpload'",
    "        '422':",
    "          $ref: '#/components/responses/Unprocessable'",
    "        '500':",
    "          $ref: '#/components/responses/InternalError'",
    "        '502':",
    "          description: The document passed validation but the catalog did not take it.",
    "          content:",
    "            application/problem+json:",
    "              schema:",
    "                $ref: '#/components/schemas/ProblemDetails'",
    "",
    "  /health:",
    "    get:",
    "      tags: [Operations]",
    "      operationId: healthCheck",
    "      summary: Health check",
    "      responses:",
    "        '200':",
    "          description: The service is running with a loaded ruleset.",
    "          content:",
    "            application/json:",
    "              schema:",
    "                type: object",
    "                required: [status, version, rules]",
    "                properties:",
    "                  status:",
    "                    type: string",
    "                    example: healthy",
    "                  version:",
    "                    type: string",
    "                  rules:",
    "                    type: integer",
    "                    description: Active rules in the loaded ruleset.",
    "",
    "  /metrics:",
    "    get:",
    "      tags: [Operations]",
    "      operationId: metrics",
    "      summary: Prometheus metrics",
    "      responses:",
    "        '200':",
    "          description: Prometheus text exposition.",
    "          content:",
    "            text/plain:",
    "              schema:",
    "                type: string",
    "",
    "components:",
    "  requestBodies:",
    "    DocumentUpload:",
    "      required: true",
    "      content:",
    "        multipart/form-data:",
    "          schema:",
    "            type: object",
    "            required: [file]",
    "            properties:",
    "              file:",
    "                type: string",
    "                format: binary",
    "                description: |",
    "                  A YAML OpenAPI document, at most 100,000 bytes by default.",
    "                  The filename or the part media type must end in \x60yaml\x60",
    "                  or \x60yml\x60.",
    "",
    "  responses:",
    "    FailedOrInvalidUpload:",
    "      description: |",
    "        Either the document failed the gate (a finding list), or the upload was",
    "        refused before validation (Problem Details).",
    "      content:",
    "        application/json:",
    "          schema:",
    "            $ref: '#/components/schemas/FindingList'",
    "        application/problem+json:",
    "          schema:",
    "            $ref: '#/components/schemas/ProblemDetails'",
    "    Unprocessable:",
    "      description: The document is not valid UTF-8, or a finding could not be classified.",
    "      content:",
    "        application/problem+json:",
    "          schema:",
    "            $ref: '#/components/schemas/ProblemDetails'",
    "    InternalError:",
    "      description: The validation task failed.",
    "      content:",
    "        application/problem+json:",
    "          schema:",
    "            $ref: '#/components/schemas/ProblemDetails'",
    "",
    "  schemas:",
    "    FindingList:",
    "      type: array",
    "      description: Findings in the order the engine emitted them.",
    "      items:",
    "        $ref: '#/components/schemas/Finding'",
    "",
    "    Finding:",
    "      type: object",
    "      required: [code, message, path, range, severity]",
    "      properties:",
    "        code:",
    "          oneOf:",
    "            - type: string",
    "            - type: integer",
    "          example: info-contact",
    "        message:",
    "          type: string",
    "          example: '\"contact\" property must be truthy'",
    "        path:",
    "          type: array",
    "          items:",
    "            oneOf:",
    "              - type: string",
    "              - type: integer",
    "          example: [info, contact]",
    "        range:",
    "          $ref: '#/components/schemas/Range'",
    "        severity:",
    "          type: string",
    "          enum: [Error, Warning, Information, Hint]",
    "",
    "    Range:",
    "      type: object",
    "      required: [start, end]",
    "      properties:",
    "        start:",
    "          $ref: '#/components/schemas/Position'",
    "        end:",
    "          $ref: '#/components/schemas/Position'",
    "",
    "    Position:",
    "      type: object",
    "      description: Zero-based line and character.",
    "      required: [line, character]",
    "      properties:",
    "        line:",
    "          type: integer",
    "          minimum: 0",
    "        character:",
    "          type: integer",
    "          minimum: 0",
    "",
    "    ProblemDetails:",
    "      type: object",
    "      required: [type, title, status]",
    "      properties:",
    "        type:",
    "          type: string",
    "          example: urn:oasgate:error:invalid-upload",
    "        title:",
    "          type: string",
    "        status:",
    "          type: integer",
    "        detail:",
    "          type: string",
    "        instance:",
    "          type: string"]

def description : String := Text.ofLines descriptionLines

end CatalogGate.Service
